import Fms.Upgrade.Actions

/-! What a round of the updater sends, and how much a pass can send to one device. -/

namespace Fms.AutoUpdater

/-- The commands among some actions. -/
def commands (actions : List UpdaterAction) : List (String × Firmware) :=
  actions.filterMap fun
    | .sent serialNumber fwDetails => some (serialNumber, fwDetails)
    | .asked .. | .reset => none

/-- The number of commands to a device among some actions. -/
def commandsTo (serialNumber : String) (actions : List UpdaterAction) : Nat :=
  ((commands actions).map Prod.fst).count serialNumber

/-- The number of entries of a device among some entries of the queue. -/
def waiting (serialNumber : String) (queue : List (String × String)) : Nat :=
  (queue.map Prod.fst).count serialNumber

/-- The option a round goes by, empty when it does not ask; there is none when asking throws. -/
def optionOf (poco : Poco) (turn : Turn) (s : AutoUpdater) (serialNumber : String) : Option String :=
  if mustAsk turn.now s.cache[serialNumber]? then
    (SDK.Prov.getFirmwareOptions poco turn.services).map fun answer => answer.2.1
  else some ""

/-- The command an upgrade sends. -/
def upgradeSends (poco : Poco) (turn : Turn) (entry : String × String) (s : AutoUpdater) :
    Option (String × Firmware) := do
  let firmwareUpgrade ← optionOf poco turn s entry.1
  let fwDetails ← latestFirmware turn.catalogue entry.2
  if firmwareUpgrade = "no" then none else some (entry.1, fwDetails)

/-- The command a round sends. -/
def sends (poco : Poco) (s : AutoUpdater) (turn : Turn) : Option (String × Firmware) := do
  let entry ← s.queue.head?
  upgradeSends poco turn entry s

variable {poco : Poco} {turn : Turn} {entry : String × String} {s : AutoUpdater}

/-- Queueing a device adds an entry, unless the updater is disabled. -/
theorem toBeUpgraded_eq (s : AutoUpdater) (serialNumber deviceType : String) :
    s.toBeUpgraded serialNumber deviceType =
      { s with
        queue := s.queue ++
          (if s.autoUpdaterEnabled then some (serialNumber, deviceType) else none).toList } := by
  -- The entry goes to the end of the queue.
  obtain ⟨autoUpdaterEnabled, queue, cache, actions⟩ := s
  cases autoUpdaterEnabled <;> simp [toBeUpgraded]

/-- The end of a round sends the newest firmware, unless the option is a refusal. -/
theorem commands_sendUnlessRefused (firmwareUpgrade : String) :
    commands (sendUnlessRefused turn entry firmwareUpgrade s).actions =
      (if firmwareUpgrade = "no" then none
        else (latestFirmware turn.catalogue entry.2).map fun fwDetails =>
          (entry.1, fwDetails)).toList ++ commands s.actions := by
  -- A refusal sends nothing, and neither does a type without a firmware.
  unfold sendUnlessRefused
  split
  · rfl
  · cases latestFirmware turn.catalogue entry.2 <;> rfl

/-- An upgrade adds what it sends to the commands. -/
theorem commands_upgrade (poco : Poco) (turn : Turn) (entry : String × String) (s : AutoUpdater) :
    commands (upgrade poco turn entry s).actions =
      (upgradeSends poco turn entry s).toList ++ commands s.actions := by
  -- The cases are those of the body of the loop: no question, no answer, an answer.
  unfold upgradeSends optionOf
  cases asks : mustAsk turn.now s.cache[entry.1]? with
  | false =>
    rw [upgrade_of_cached asks, commands_sendUnlessRefused]
    cases latestFirmware turn.catalogue entry.2 <;> rfl
  | true =>
    -- The question is an action as well, but no command.
    cases outcome : SDK.Prov.getFirmwareOptions poco turn.services with
    | none =>
      rw [upgrade_of_exception asks outcome]
      rfl
    | some answer =>
      obtain ⟨result, firmwareUpgrade, firmwareRCOnly⟩ := answer
      rw [upgrade_of_answer asks outcome, commands_sendUnlessRefused]
      cases latestFirmware turn.catalogue entry.2 <;> simp [commands]

/-- A round takes the first entry from the queue, and adds what it sends to the commands. -/
theorem commands_round (poco : Poco) (s : AutoUpdater) (turn : Turn) :
    (round poco s turn).queue = s.queue.tail ∧
      commands (round poco s turn).actions = (sends poco s turn).toList ++ commands s.actions := by
  -- An empty queue takes nothing and sends nothing.
  unfold round sends
  cases waits : s.queue with
  | nil =>
    simp only [waits, List.tail_nil, List.head?_nil, Option.bind_eq_bind, Option.bind_none,
      Option.toList_none, List.nil_append, and_self]
  | cons entry queue =>
    exact ⟨(queue_cache_upgrade poco turn entry { s with queue }).1,
      commands_upgrade poco turn entry { s with queue }⟩

/-- The commands among more actions. -/
theorem commands_append (added before : List UpdaterAction) :
    commands (added ++ before) = commands added ++ commands before := by
  rw [commands, List.filterMap_append, commands, commands]

/-- A command is one of the actions. -/
theorem mem_commands {actions : List UpdaterAction} {serialNumber : String} {fwDetails : Firmware} :
    (serialNumber, fwDetails) ∈ commands actions ↔ .sent serialNumber fwDetails ∈ actions := by
  unfold commands
  rw [List.mem_filterMap]
  constructor
  · -- Only a command is counted among the commands.
    rintro ⟨action, member, command⟩
    cases action with
    | sent other sending =>
      obtain ⟨rfl, rfl⟩ := Prod.mk.inj (Option.some.inj command)
      exact member
    | asked => contradiction
    | reset => contradiction
  · intro member
    exact ⟨_, member, rfl⟩

/-- What was done before a pass stays part of what has been done. -/
theorem actions_onTimer (poco : Poco) (turns : List Turn) (s : AutoUpdater) :
    ∃ added, (onTimer poco turns s).actions = added ++ s.actions := by
  -- Each round puts its actions in front of what is there.
  unfold onTimer
  induction turns generalizing s with
  | nil => exact ⟨[], rfl⟩
  | cons turn rest ih =>
    obtain ⟨first, start⟩ := actions_round poco s turn
    obtain ⟨later, end_⟩ := ih (round poco s turn)
    exact ⟨later ++ first, by rw [List.foldl_cons, end_, start, List.append_assoc]⟩

/-- A pass adds to the commands what its rounds send, the latest one first. -/
theorem commands_onTimer (poco : Poco) (turns : List Turn) (s : AutoUpdater) :
    commands (onTimer poco turns s).actions =
      (Transition.outputs (sends poco) (round poco) s turns).reverse ++ commands s.actions := by
  -- The first round of the pass sends before the others.
  unfold onTimer
  induction turns generalizing s with
  | nil => rfl
  | cons turn rest ih =>
    rw [List.foldl_cons, ih, (commands_round poco s turn).2, Transition.outputs,
      List.reverse_append, List.append_assoc]
    -- A round sends one command at most.
    cases sends poco s turn <;> rfl

/-- What a round sends goes to the device it takes from the queue. -/
theorem sends_entry {serialNumber : String} {fwDetails : Firmware}
    (sent : sends poco s turn = some (serialNumber, fwDetails)) :
    ∃ deviceType, s.queue.head? = some (serialNumber, deviceType) ∧
      latestFirmware turn.catalogue deviceType = some fwDetails := by
  -- A round that sends has an entry, an option and a firmware.
  simp only [sends, upgradeSends, Option.bind_eq_bind, Option.bind_eq_some_iff] at sent
  obtain ⟨entry, first, firmwareUpgrade, _, found, newest, command⟩ := sent
  split at command
  · contradiction
  · obtain ⟨rfl, rfl⟩ := Prod.mk.inj (Option.some.inj command)
    exact ⟨entry.2, first, newest⟩

/-- A round uses up an entry of a device for each command to it. -/
theorem commandsTo_round (poco : Poco) (s : AutoUpdater) (turn : Turn) (serialNumber : String) :
    commandsTo serialNumber (round poco s turn).actions +
        waiting serialNumber (round poco s turn).queue ≤
      commandsTo serialNumber s.actions + waiting serialNumber s.queue := by
  -- The first entry of the queue is gone after the round.
  obtain ⟨left, sent⟩ := commands_round poco s turn
  rw [commandsTo, sent, left, commandsTo]
  cases command : sends poco s turn with
  | none =>
    -- Nothing is sent, and the queue does not grow.
    have fewer : waiting serialNumber s.queue.tail ≤ waiting serialNumber s.queue :=
      ((List.tail_sublist s.queue).map Prod.fst).count_le serialNumber
    rw [Option.toList_none, List.nil_append]
    omega
  | some sending =>
    obtain ⟨deviceType, first, _⟩ := sends_entry command
    obtain ⟨rest, queue⟩ := List.head?_eq_some_iff.mp first
    -- The command and the entry it was sent for count the same.
    rw [queue]
    simp only [Option.toList_some, List.singleton_append, List.map_cons, List.count_cons, waiting,
      List.tail_cons]
    omega

/-- A pass sends to each device at most as many commands as there are entries of it in the queue. -/
theorem commandsTo_onTimer (poco : Poco) (turns : List Turn) (s : AutoUpdater)
    (serialNumber : String) :
    commandsTo serialNumber (onTimer poco turns s).actions +
        waiting serialNumber (onTimer poco turns s).queue ≤
      commandsTo serialNumber s.actions + waiting serialNumber s.queue := by
  -- No round raises the sum of what has been sent and what still waits.
  unfold onTimer
  induction turns generalizing s with
  | nil => exact Nat.le_refl _
  | cons turn rest ih => exact (ih (round poco s turn)).trans (commandsTo_round poco s turn serialNumber)

/-- The answer of the provisioning service in a round lets a device be upgraded. -/
def Allows (poco : Poco) (services : List Exchange) : Prop :=
  ∃ result firmwareUpgrade firmwareRCOnly,
    SDK.Prov.getFirmwareOptions poco services = some (result, firmwareUpgrade, firmwareRCOnly) ∧
      firmwareUpgrade ≠ "no"

/-- With such an answer a round sends the newest firmware there is, whether it asks or not. -/
theorem sends_of_allows (allows : Allows poco turn.services) {queue : List (String × String)}
    (first : s.queue = entry :: queue) {fwDetails : Firmware}
    (newest : latestFirmware turn.catalogue entry.2 = some fwDetails) :
    sends poco s turn = some (entry.1, fwDetails) := by
  -- The entry and the firmware are there, and only the option is left to look at.
  obtain ⟨result, firmwareUpgrade, firmwareRCOnly, answer, allowed⟩ := allows
  simp only [sends, upgradeSends, optionOf, first, newest, answer, List.head?_cons, Option.bind_eq_bind,
    Option.bind_some, Option.map_some]
  -- A round that does not ask goes by an empty option, which is no refusal either.
  cases mustAsk turn.now s.cache[entry.1]? <;> simp [allowed]

/-- A pass that may upgrade every device sends a command for each entry of the queue. -/
theorem commandsTo_onTimer_of_allows {now : UInt64} {services : List Exchange} {c : Catalogue}
    (allows : Allows poco services) (s : AutoUpdater)
    (stored : ∀ entry ∈ s.queue, (latestFirmware c entry.2).isSome = true) (serialNumber : String) :
    commandsTo serialNumber
        (onTimer poco (List.replicate s.queue.length ⟨now, services, c⟩) s).actions =
      commandsTo serialNumber s.actions + waiting serialNumber s.queue := by
  -- The induction is on the rounds, of which there are as many as entries.
  generalize length : s.queue.length = rounds
  unfold onTimer
  induction rounds generalizing s with
  | zero => simp [List.eq_nil_of_length_eq_zero length, waiting]
  | succ rounds ih =>
    obtain ⟨entry, queue, first⟩ := List.exists_cons_of_length_eq_add_one length
    obtain ⟨fwDetails, newest⟩ := Option.isSome_iff_exists.mp (stored entry (by simp [first]))
    obtain ⟨left, sent⟩ := commands_round poco s ⟨now, services, c⟩
    rw [first, List.tail_cons] at left
    have sending : sends poco s ⟨now, services, c⟩ = some (entry.1, fwDetails) :=
      sends_of_allows allows first newest
    rw [sending] at sent
    -- The rest of the queue is emptied by the rounds that are left.
    have rest := ih (round poco s ⟨now, services, c⟩)
      (by rw [left]; exact fun entry member => stored entry (by simp [first, member]))
      (by rw [left]; simpa [first] using length)
    rw [List.replicate_succ, List.foldl_cons, rest, left, commandsTo, sent, commandsTo, waiting,
      waiting, first]
    simp only [Option.toList_some, List.singleton_append, List.map_cons, List.count_cons]
    omega

end Fms.AutoUpdater
