import Fms.Devices.Commands
import Fms.Devices.Reports
import Fms.Relation.Delivery

/-! `KafkaConsumer` and the two handlers it feeds: which messages are lost when the service ends. -/

namespace Fms

/-- The topics whose messages the handlers put into their queues. -/
inductive KafkaTopic where
  | command
  | connection
  deriving DecidableEq, Repr

/-- What a handler finds outside the tables when it comes to a message. -/
structure HandlerContext where
  device : DeviceContext
  /-- The caches and the catalogue; its tables are not looked at. -/
  service : Service

/--
`KafkaConsumer`, `NewCommandHandler` and `NewConnectionHandler` over the device tables.

A log belongs to a topic and one of its partitions.
-/
abbrev KafkaState (π : Type) :=
  Delivery.State (KafkaTopic × π) KafkaTopic (String × String) DeviceTables HandlerContext

/--
What can happen to them.

* `dispatch` is the callback of `run`, which ends in `CommandReceived` or `ConnectionReceived`.
* `commit` is the call of `commit` behind it.
* `take` and `handle` are the two parts of a round in the loop of a handler.
* `stopWorker` is the `Stop` of a handler, which also unregisters its watcher.
-/
abbrev KafkaTurn (π : Type) :=
  Delivery.Turn (KafkaTopic × π) KafkaTopic (String × String) HandlerContext

namespace KafkaConsumer

/-- What the handler of a topic does to the tables; only the commands have exceptions it lets through. -/
def handleMessage (poco : Poco) (parse : String → Option Nlohmann.Json) (type : DBType) :
    KafkaTopic → HandlerContext → DeviceTables → String × String → Option DeviceTables
  | .command, _, tables, S => NewCommandHandler.handle parse type tables S
  | .connection, context, tables, S =>
    some (NewConnectionHandler.handle poco type context.device
      { context.service with tables } S).tables

variable {π : Type} [DecidableEq π]

/-- One turn of the broker, the consumer or a handler. -/
def step (poco : Poco) (parse : String → Option Nlohmann.Json) (type : DBType) :
    KafkaState π → KafkaTurn π → KafkaState π :=
  Delivery.step Prod.fst (handleMessage poco parse type)

/-- The effect of a message has been applied to the tables. -/
def Applied (s : KafkaState π) (partition : KafkaTopic × π) (offset : Nat)
    (message : String × String) : Prop :=
  ∃ context, (context, (⟨partition, offset, message⟩ : Delivery.Envelope _ _)) ∈ s.handled

/--
A message is lost by a restart that finds it committed and unhandled, or when its handler was stopped.

The tables are what the handled messages make of them, and when the consumer has caught up each message
that has not been lost is among those.
-/
theorem notLost_iff_keeps (poco : Poco) (parse : String → Option Nlohmann.Json) (type : DBType)
    (tables : DeviceTables) (turns : List (KafkaTurn π)) :
    (∀ partition offset,
      (∀ reached ∈ Transition.states (step poco parse type) (Delivery.start tables) turns,
          Delivery.NotLost partition offset reached) ↔
        Transition.Along (step poco parse type) (Delivery.Keeps partition offset)
          (Delivery.start tables) turns) ∧
      ∀ reached ∈ Transition.states (step poco parse type) (Delivery.start tables) turns,
        reached.store =
            Delivery.replay Prod.fst (handleMessage poco parse type) tables reached.handled ∧
          (Delivery.Complete reached → ∀ partition offset message,
            (reached.log partition)[offset]? = some message →
            Delivery.NotLost partition offset reached → Applied reached partition offset message) := by
  constructor
  · intro partition offset
    exact Delivery.notLost_along_iff Prod.fst (handleMessage poco parse type) tables partition offset
      turns
  · intro reached member
    -- What has been handled and what has been committed are kept track of in every state (`Sound`).
    have sound := Delivery.sound_along Prod.fst (handleMessage poco parse type) tables turns reached
      member
    refine ⟨sound.stored, fun complete partition offset message logged notLost => ?_⟩
    exact Delivery.handled_of_complete sound complete notLost logged

/-- The deletion of a stored device is committed, and waits in its queue while the service ends. -/
def endedWhileWaiting : List (KafkaTurn Unit) :=
  [.produce (.command, ()) NewCommandHandler.deletion, .dispatch (.command, ()), .commit, .restart]

/-- After the restart nothing is left to be delivered, and the device that should be gone is still stored. -/
theorem committed_command_lost :
    (¬ ∀ (poco : Poco) (parse : String → Option Nlohmann.Json) (type : DBType) (tables : DeviceTables)
      (turns : List (KafkaTurn Unit)),
      ∀ reached ∈ Transition.states (step poco parse type) (Delivery.start tables) turns,
        Delivery.Complete reached → ∀ partition offset message,
          (reached.log partition)[offset]? = some message → Applied reached partition offset message) ∧
      (endedWhileWaiting.foldl (step (.onDocuments []) NewCommandHandler.deletionParser .sqlite)
          (Delivery.start NewCommandHandler.knownDevice)).store.devices.rows.length = 1 ∧
      ((NewCommandHandler.handle NewCommandHandler.deletionParser .sqlite NewCommandHandler.knownDevice
        NewCommandHandler.deletion).map fun tables => tables.devices.rows.length) = some 0 := by
  refine ⟨fun applied => ?_, rfl, by decide +kernel⟩
  have last := applied (.onDocuments []) NewCommandHandler.deletionParser .sqlite NewCommandHandler.knownDevice
    endedWhileWaiting _ (Transition.last_mem_states _ _)
  -- The log has been read and committed to its end, and the queue is gone.
  have complete : Delivery.Complete (endedWhileWaiting.foldl
      (step (.onDocuments []) NewCommandHandler.deletionParser .sqlite)
      (Delivery.start NewCommandHandler.knownDevice)) := by
    constructor
    · rintro ⟨topic, _⟩
      cases topic with
      | command => rfl
      | connection => rfl
    · rintro envelope ⟨worker, there⟩
      simp [endedWhileWaiting, step, Delivery.step] at there
  obtain ⟨context, handled⟩ := last complete (.command, ()) 0 NewCommandHandler.deletion rfl
  exact absurd handled (by simp [endedWhileWaiting, step, Delivery.step, Delivery.start])

end KafkaConsumer

end Fms
