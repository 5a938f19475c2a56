import Mathlib.Data.List.Chain
import Fms.Framework.EventBusManager
import Fms.Sql.Ddl

/-! What the services of a fleet know of each other, in whatever order their messages arrive and are read. -/

namespace Fms

open ServiceEvents

namespace ServiceConfig

/-- The members of an event. -/
theorem has_systemEvent (config : ServiceConfig) (eventType : String) :
    ∀ name ∈ "id" :: "event" :: serviceFields, (config.systemEvent eventType).has name = true := by
  intro name member
  simp only [serviceFields, List.mem_cons, List.not_mem_nil, or_false] at member
  rcases member with rfl | rfl | rfl | rfl | rfl | rfl | rfl
  all_goals simp [systemEvent, JsonObject.has_set]

/-- The values of an event. -/
theorem get_systemEvent (config : ServiceConfig) (eventType : String) :
    (config.systemEvent eventType).get "id" = .int config.id.toNat ∧
      (config.systemEvent eventType).get "event" = .string eventType ∧
      (config.systemEvent eventType).get "type" = .string (toLower config.appName) ∧
      (config.systemEvent eventType).get "publicEndPoint" = .string config.publicEndPoint ∧
      (config.systemEvent eventType).get "privateEndPoint" = .string config.privateEndPoint ∧
      (config.systemEvent eventType).get "key" = .string config.hash ∧
      (config.systemEvent eventType).get "version" = .string config.version := by
  simp [systemEvent, JsonObject.get_set]

end ServiceConfig

namespace Fleet

variable {ι : Type} {fleet : Fleet ι}

/-- A message of another service is read as its event. -/
theorem ReadsBack.fromPeer (readsBack : fleet.ReadsBack) {i j : ι}
    (foreign : (fleet.config j).id ≠ (fleet.config i).id) {event : String}
    (known : event ∈ [eventJoin, eventKeepAlive, eventLeave]) (readings : BusReadings) :
    ∃ read, Registry.FromPeer fleet.poco (fleet.config i).id
        ⟨fleet.makeSystemEventMessage j event, readings.updated, readings.now⟩ read (fleet.config j).id event ∧
      ∀ name, read.has name = ((fleet.config j).systemEvent event).has name ∧
        read.get name = ((fleet.config j).systemEvent event).get name := by
  obtain ⟨read, parsed, members⟩ := readsBack.readsBack j event known
  have has := (fleet.config j).has_systemEvent event
  obtain ⟨id, type, -⟩ := (fleet.config j).get_systemEvent event
  -- Present and of the right type, the two fields are read; and the id is another than the own one.
  refine ⟨read, ⟨parsed, ?_, ?_, ?_, ?_, foreign⟩, members⟩
  · rw [(members "id").1]
    exact has "id" (by simp)
  · rw [(members "event").1]
    exact has "event" (by simp)
  · rw [(members "id").2, id]
    exact readsBack.converts.uint64 _
  · rw [(members "event").2, type]
    exact readsBack.converts.string _

/-- A join or a keep-alive of another service is read as the entry that the service is to have. -/
theorem ReadsBack.alive (readsBack : fleet.ReadsBack) {i j : ι} (foreign : (fleet.config j).id ≠ (fleet.config i).id)
    {event : String} (stays : event = eventJoin ∨ event = eventKeepAlive) (readings : BusReadings) :
    MicroService.readBusMessage fleet.poco (fleet.config i).id readings.updated
        (fleet.makeSystemEventMessage j event) = some (.alive ((fleet.config j).listed readings.updated)) := by
  have known : event ∈ [eventJoin, eventKeepAlive, eventLeave] := by
    rcases stays with rfl | rfl <;> simp
  obtain ⟨read, peer, members⟩ := readsBack.fromPeer foreign known readings
  obtain ⟨-, -, type, publicEndPoint, privateEndPoint, key, version⟩ := (fleet.config j).get_systemEvent event
  have text := readsBack.converts.string
  have announces : Registry.Announces fleet.poco (fleet.config i).id
      ⟨fleet.makeSystemEventMessage j event, readings.updated, readings.now⟩
      ((fleet.config j).listed readings.updated) := by
    refine ⟨read, _, event, peer, stays, fun field member => ?_, toLower (fleet.config j).appName, ?_, ?_, ?_, ?_, ?_,
      rfl, ?_, rfl⟩
    · rw [(members field).1]
      exact (fleet.config j).has_systemEvent event field (by simp [member])
    · rw [(members _).2, type, text]
    · rw [(members _).2, privateEndPoint, text]
      rfl
    · rw [(members _).2, publicEndPoint, text]
      rfl
    · rw [(members _).2, key, text]
      rfl
    · rw [(members _).2, version, text]
      rfl
    · -- The name is in lower case already.
      exact (Sql.lower_lower _).symm
  exact Registry.read_eq_alive.mpr announces

/-- A leave of another service is read as one. -/
theorem ReadsBack.leaving (readsBack : fleet.ReadsBack) {i j : ι} (foreign : (fleet.config j).id ≠ (fleet.config i).id)
    (readings : BusReadings) :
    MicroService.readBusMessage fleet.poco (fleet.config i).id readings.updated
        (fleet.makeSystemEventMessage j eventLeave) = some (.leaving (fleet.config j).privateEndPoint) := by
  obtain ⟨read, peer, members⟩ := readsBack.fromPeer foreign (show eventLeave ∈ _ by simp) readings
  obtain ⟨-, -, -, -, privateEndPoint, -⟩ := (fleet.config j).get_systemEvent eventLeave
  -- All fields of a leaving message are there, and the endpoint is read from its own.
  have leaves : Registry.Leaves fleet.poco (fleet.config i).id
      ⟨fleet.makeSystemEventMessage j eventLeave, readings.updated, readings.now⟩ (fleet.config j).privateEndPoint := by
    refine ⟨read, _, peer, fun field member => ?_, ?_⟩
    · rw [(members field).1]
      exact (fleet.config j).has_systemEvent eventLeave field (by simp [member])
    · rw [(members _).2, privateEndPoint]
      exact readsBack.converts.string _
  exact Registry.read_eq_leaving.mpr leaves

/-- A service ignores what carries its own id. -/
theorem ReadsBack.own (readsBack : fleet.ReadsBack) {i j : ι} (own : (fleet.config j).id = (fleet.config i).id)
    {event : String} (known : event ∈ [eventJoin, eventKeepAlive, eventLeave]) (readings : BusReadings) :
    MicroService.readBusMessage fleet.poco (fleet.config i).id readings.updated
        (fleet.makeSystemEventMessage j event) = some .nothing := by
  obtain ⟨read, parsed, members⟩ := readsBack.readsBack j event known
  have has := (fleet.config j).has_systemEvent event
  obtain ⟨id, type, -⟩ := (fleet.config j).get_systemEvent event
  -- The message has all fields, and is dropped for its id.
  have fields : (read.has "id" && read.has "event") = true := by
    rw [(members "id").1, (members "event").1, has "id" (by simp), has "event" (by simp)]
    rfl
  have idRead := readsBack.converts.uint64 (fleet.config j).id
  have eventRead := readsBack.converts.string event
  rw [← id, ← (members "id").2] at idRead
  rw [← type, ← (members "event").2] at eventRead
  simp only [MicroService.readBusMessage, parsed, fields, idRead, eventRead, own, if_true, Option.bind_eq_bind,
    Option.bind_some, ne_eq, not_true_eq_false, if_false]

/-- The messages that a service posts. -/
def Posts (fleet : Fleet ι) (j : ι) (message : KafkaMessage) : Prop :=
  ∃ event ∈ [eventJoin, eventKeepAlive, eventLeave], message.payload = fleet.makeSystemEventMessage j event

/-- A message is the leave of a service. -/
def IsLeave (fleet : Fleet ι) (j : ι) (message : KafkaMessage) : Prop :=
  message.payload = fleet.makeSystemEventMessage j eventLeave

/-- One service hears another one: their ids differ. -/
def Hears (fleet : Fleet ι) (i j : ι) : Prop := (fleet.config j).id ≠ (fleet.config i).id

/-- The list of a service behind a message of another one. -/
theorem ReadsBack.services (readsBack : fleet.ReadsBack) {i j : ι} {s : MicroService}
    (own : s.id = (fleet.config i).id) {message : KafkaMessage} (posts : fleet.Posts j message) (readings : BusReadings)
    (privateEndPoint : String) (service : MicroServiceMeta) :
    (s.busMessageReceived fleet.poco ⟨message.payload, readings.updated, readings.now⟩).services[privateEndPoint]? =
        some service ↔
      ((fleet.Hears i j ∧ ¬ fleet.IsLeave j message ∧ privateEndPoint = (fleet.config j).privateEndPoint ∧
          service = (fleet.config j).listed readings.updated) ∨
        s.services[privateEndPoint]? = some service ∧
          ¬ (fleet.Hears i j ∧ privateEndPoint = (fleet.config j).privateEndPoint)) ∧
      ¬ Registry.Zombie service.lastUpdate readings.now ∧ ¬ Registry.Ahead service.lastUpdate readings.now := by
  obtain ⟨event, known, written⟩ := posts
  have leave := fun foreign => @ReadsBack.leaving ι fleet readsBack i j foreign readings
  unfold IsLeave
  rw [written]
  by_cases foreign : fleet.Hears i j
  · by_cases stays : event = eventJoin ∨ event = eventKeepAlive
    · have read := readsBack.alive foreign stays readings
      have other : fleet.makeSystemEventMessage j event ≠ fleet.makeSystemEventMessage j eventLeave := by
        intro same
        rw [same, leave foreign] at read
        cases read
      rw [MicroService.busMessageReceived, own, read]
      simp only [Registry.getElem?_removeZombies, MicroService.apply, Std.ExtTreeMap.getElem?_insert,
        Std.compare_eq_iff_eq, foreign, other, true_and, not_false_eq_true]
      refine and_congr_left fun _ => ?_
      by_cases here : (fleet.config j).privateEndPoint = privateEndPoint
      · subst here
        simp [ServiceConfig.listed, eq_comm]
      · simp [ServiceConfig.listed, here, Ne.symm here]
    · have last : event = eventLeave := by
        simp only [List.mem_cons, List.not_mem_nil, or_false] at known
        tauto
      subst last
      rw [MicroService.busMessageReceived, own, leave foreign]
      simp only [Registry.getElem?_removeZombies, MicroService.apply, Std.ExtTreeMap.getElem?_erase,
        Std.compare_eq_iff_eq, foreign, true_and, not_true_eq_false, false_and, and_false, false_or]
      refine and_congr_left fun _ => ?_
      by_cases here : (fleet.config j).privateEndPoint = privateEndPoint
      · simp [here]
      · simp [here, Ne.symm here]
  · -- The service takes the message for one of its own.
    have read := readsBack.own (not_not.mp foreign) known readings
    rw [MicroService.busMessageReceived, own, read]
    simp only [Registry.getElem?_removeZombies, MicroService.apply, foreign, false_and, false_or, not_false_eq_true,
      and_true]

/-! ### Who is listed -/

/-- A list holds entries of other services only, each under its own endpoint and as it announces itself. -/
def Genuine (fleet : Fleet ι) (i : ι) (process : BusProcess) : Prop :=
  process.service.id = (fleet.config i).id ∧
    ∀ privateEndPoint service, process.service.services[privateEndPoint]? = some service →
      ∃ j lastUpdate, fleet.Hears i j ∧ privateEndPoint = (fleet.config j).privateEndPoint ∧
        service = (fleet.config j).listed lastUpdate

/-- What the thread posts is a message of its service. -/
theorem posts_act (i : ι) (input : BusCall × UInt64) (process : BusProcess) :
    ∀ message ∈ (fleet.protocol.act i input process).2, fleet.Posts i message := by
  intro message member
  obtain ⟨call, time⟩ := input
  obtain ⟨phase, service⟩ := process
  -- A call that the phase does not allow posts nothing.
  cases call <;> cases phase <;>
    simp only [protocol, EventBusManager.run, List.map_cons, List.map_nil, List.mem_singleton,
      List.not_mem_nil] at member
  all_goals
    subst member
    exact ⟨_, by simp, rfl⟩

/-- A message does not change the id of a service. -/
theorem id_received (s : MicroService) (message : BusMessage) : (s.busMessageReceived fleet.poco message).id = s.id :=
  @Registry.id_step fleet.poco message ⟨s, []⟩

/-- In every run, every service lists others of the fleet only. -/
theorem genuine_run [DecidableEq ι] (readsBack : fleet.ReadsBack) (turns : List (BusTurn ι)) :
    ∀ reached ∈ Transition.states (Broadcast.step fleet.protocol) fleet.start turns,
      ∀ i, fleet.Genuine i (reached.knows i) := by
  intro reached member
  -- `Genuine` as the invariant of every party and `Posts` as the law of every message.
  refine (@Broadcast.holds_run _ _ _ _ _ _ fleet.protocol fleet.start fleet.Posts fleet.Genuine
    (fun i input process genuine => ⟨genuine, posts_act i input process⟩)
    (fun i readings j message process posts genuine => ?_)
    (fun i process _ => ⟨rfl, fun _ _ found => ?_⟩) ?_ (fun i => ⟨rfl, fun _ _ found => ?_⟩) turns reached member).2
  -- A reading adds the entry of the sender or keeps an older one.
  · obtain ⟨own, entries⟩ := genuine
    refine ⟨(id_received _ _).trans own, fun privateEndPoint service found => ?_⟩
    obtain ⟨announced | old, -⟩ := (readsBack.services own posts readings privateEndPoint service).mp found
    · exact ⟨j, readings.updated, announced.1, announced.2.2.1, announced.2.2.2⟩
    · exact entries privateEndPoint service old.1
  · simp [protocol, boot] at found
  · exact ⟨fun _ _ inside => absurd inside List.not_mem_nil, fun _ inside => absurd inside List.not_mem_nil⟩
  · simp [start, boot] at found

/-- A request to an instance carries the key of the instance, and the name of the caller. -/
theorem header_toInstance (method path : String) (Body : Option String) (Svc : MicroServiceMeta)
    (publicEndPoint : String) :
    (OpenAPIRequest.toInstance method path Body Svc publicEndPoint).header "X-API-KEY" = some Svc.accessKey ∧
      (OpenAPIRequest.toInstance method path Body Svc publicEndPoint).header "X-INTERNAL-NAME" =
        some publicEndPoint := by
  -- The headers of the body stand before the two, and have other names.
  have others : ∀ name ∈ ["Content-Type", "Content-Length"],
      sameIgnoringCase name "X-API-KEY" = false ∧ sameIgnoringCase name "X-INTERNAL-NAME" = false := by decide
  have content := others "Content-Type" (by simp)
  have length := others "Content-Length" (by simp)
  have own : sameIgnoringCase "X-API-KEY" "X-API-KEY" = true ∧ sameIgnoringCase "X-API-KEY" "X-INTERNAL-NAME" = false ∧
      sameIgnoringCase "X-INTERNAL-NAME" "X-INTERNAL-NAME" = true := by decide
  cases Body <;> simp [RESTAPIHandler.HttpRequest.header, OpenAPIRequest.toInstance, content, length, own]

open RESTAPIHandler in
/--
In every interleaving, a service is let in by those it lists.

Whatever one of them is called with, without a token, its key is the one that the callee knows; and it is let in under
the name of the caller.
-/
theorem callers_authorized [DecidableEq ι] (readsBack : fleet.ReadsBack) (turns : List (BusTurn ι)) :
    ∀ reached ∈ Transition.states (Broadcast.step fleet.protocol) fleet.start turns,
      ∀ i type, ∀ Svc ∈ (reached.knows i).service.getServicesOfType type,
        ∃ j, fleet.Hears i j ∧ toLower (fleet.config j).appName = toLower type ∧
          Svc.privateEndPoint = (fleet.config j).privateEndPoint ∧
          ∀ setting profile ctx authClient method path Body, setting.myHash = (fleet.config j).hash →
            profile.internal = true →
            isAuthorized setting profile ctx authClient
                (OpenAPIRequest.toInstance method path Body Svc (fleet.config i).publicEndPoint) =
              ({ allowed := true, contacted := true, requester := (fleet.config i).publicEndPoint }, authClient) := by
  intro reached member i type Svc listed
  -- An entry of the list comes from a message of its service, with the key that service goes by (`Genuine`).
  obtain ⟨-, entries⟩ := genuine_run readsBack turns reached member i
  obtain ⟨inside, typed⟩ := List.mem_filter.mp listed
  obtain ⟨⟨privateEndPoint, service⟩, held, rfl⟩ := List.mem_map.mp inside
  rw [Std.ExtTreeMap.mem_toList_iff_getElem?_eq_some] at held
  obtain ⟨j, lastUpdate, hears, -, rfl⟩ := entries _ _ held
  refine ⟨j, hears, of_decide_eq_true typed, rfl, ?_⟩
  intro setting profile ctx authClient method path Body known internal
  obtain ⟨key, name⟩ := header_toInstance method path Body ((fleet.config j).listed lastUpdate)
    (fleet.config i).publicEndPoint
  have same : ((fleet.config j).listed lastUpdate).accessKey = setting.myHash := known.symm
  simp [isAuthorized, internal, key, name, isValidAPIKEY, same]

/-- A firmware service and a security service. -/
def pairConfig : Bool → ServiceConfig
  | false => ⟨1, "owfms", "https://fms:16004", "https://fms:17004", "1f", "2.0"⟩
  | true => ⟨2, "owsec", "https://sec:16001", "https://sec:17001", "2f", "2.0"⟩

/-- The event and the id of a message. -/
def pairText (message : JsonObject) : String :=
  match message.get "event", message.get "id" with
  | .string event, .int id => event ++ " " ++ toString id
  | _, _ => ""

/-- The two on one bus. -/
def pair : Fleet Bool where
  config := pairConfig
  poco := .onDocuments ([false, true].flatMap fun i => [eventJoin, eventKeepAlive, eventLeave].map fun event =>
    (pairText ((pairConfig i).systemEvent event), .object ((pairConfig i).systemEvent event)))
  stringify := pairText

/-- The messages of the two differ, so that each is read as it has been written. -/
theorem pair_readsBack : pair.ReadsBack where
  converts := Poco.converts_onDocuments _
  readsBack := by
    intro i event known
    simp only [List.mem_cons, List.not_mem_nil, or_false] at known
    refine ⟨(pairConfig i).systemEvent event, ?_, fun _ => ⟨rfl, rfl⟩⟩
    cases i <;> rcases known with rfl | rfl | rfl <;> rfl

/-- The security service joins, and the firmware service reads of it. -/
def pairJoins : List (BusTurn Bool) :=
  [.act true (.start, 100), .arrive true, .read false ⟨101, 101⟩]

/-- The state behind a run of the two. -/
def pairAfter (turns : List (BusTurn Bool)) :
    BusState Bool :=
  turns.foldl (Broadcast.step pair.protocol) pair.start

/-- The firmware service finds the security service, and may call it. -/
theorem callers_authorized_pair :
    (pairConfig true).listed 101 ∈ ((pairAfter pairJoins).knows false).service.getServicesOfType "OWSEC" ∧
      ∃ j, pair.Hears false j ∧ toLower (pair.config j).appName = toLower "OWSEC" ∧
        ((pairConfig true).listed 101).privateEndPoint = (pair.config j).privateEndPoint ∧
        ∀ setting profile ctx authClient method path Body, setting.myHash = (pair.config j).hash →
          profile.internal = true →
          RESTAPIHandler.isAuthorized setting profile ctx authClient
              (OpenAPIRequest.toInstance method path Body ((pairConfig true).listed 101) "https://fms:16004") =
            ({ allowed := true, contacted := true, requester := "https://fms:16004" }, authClient) := by
  have listed : (pairConfig true).listed 101 ∈
      ((pairAfter pairJoins).knows false).service.getServicesOfType "OWSEC" := by decide +kernel
  exact ⟨listed, callers_authorized pair_readsBack pairJoins _ (Transition.last_mem_states _ _) false "OWSEC" _ listed⟩

/-! ### Who has left -/

/-- The endpoints of the services are their own. -/
def Apart (fleet : Fleet ι) : Prop :=
  ∀ j k, (fleet.config j).privateEndPoint = (fleet.config k).privateEndPoint → j = k

/-- A service that has read nothing of another one but its leave at last does not list its endpoint. -/
def Forgets (fleet : Fleet ι) (i j : ι) (read : List KafkaMessage) (process : BusProcess) : Prop :=
  process.service.id = (fleet.config i).id ∧
    ((fleet.Hears i j → ∀ last ∈ read.getLast?, fleet.IsLeave j last) →
      process.service.services[(fleet.config j).privateEndPoint]? = none)

/-- A service whose thread has stopped has posted its leave last. -/
def LeavesLast (fleet : Fleet ι) (j : ι) (posted : List KafkaMessage) (process : BusProcess) : Prop :=
  process.phase = .stopped → ∃ last ∈ posted.getLast?, fleet.IsLeave j last

/-- The thread that stops posts its leave. -/
theorem LeavesLast.act {j : ι} {posted : List KafkaMessage} {process : BusProcess}
    (leaves : fleet.LeavesLast j posted process) (input : BusCall × UInt64) :
    fleet.LeavesLast j (posted ++ (fleet.protocol.act j input process).2) (fleet.protocol.act j input process).1 := by
  obtain ⟨call, time⟩ := input
  obtain ⟨phase, service⟩ := process
  intro stopped
  cases call <;> cases phase <;> simp only [protocol, EventBusManager.run, reduceCtorEq] at stopped
  -- The thread had stopped before, or it stops now.
  case stop.running =>
    exact ⟨⟨fleet.makeSystemEventMessage j eventLeave, time⟩, by simp [protocol, EventBusManager.run], rfl⟩
  all_goals simpa [protocol, EventBusManager.run] using leaves rfl

/-- A message that is read leaves a service forgetful of those that have left. -/
theorem Forgets.receive (readsBack : fleet.ReadsBack) (apart : fleet.Apart) [DecidableEq ι] {i j other : ι}
    {read : List KafkaMessage} {process : BusProcess} (forgets : fleet.Forgets i j read process)
    {message : KafkaMessage} (posts : fleet.Posts other message) (readings : BusReadings) :
    fleet.Forgets i j (read ++ if other = j then [message] else [])
      (fleet.protocol.receive i readings message process) := by
  obtain ⟨own, forgotten⟩ := forgets
  refine ⟨(id_received _ _).trans own, fun last => Option.eq_none_iff_forall_ne_some.mpr fun service found => ?_⟩
  obtain ⟨announced | old, -⟩ := (readsBack.services own posts readings _ service).mp found
  · -- Only the service itself announces its endpoint, and its last message is a leave.
    obtain ⟨hears, stays, named, -⟩ := announced
    obtain rfl := apart _ _ named
    exact stays (last hears message (by simp))
  · by_cases same : other = j
    · subst same
      have unheard : ¬ fleet.Hears i other := fun hears => old.2 ⟨hears, rfl⟩
      rw [forgotten fun hears => absurd hears unheard] at old
      exact absurd old.1 (by simp)
    · rw [if_neg same, List.append_nil] at last
      rw [forgotten last] at old
      exact absurd old.1 (by simp)

/--
A service that has left is listed by none that is up to date.

Its thread has stopped, none of its messages was lost, and all of them have arrived; then whoever has read the log to
its end does not list its endpoint.  It may have been started anew before, as long as nothing of it was queued then.
-/
theorem left_not_listed [DecidableEq ι] (readsBack : fleet.ReadsBack) (apart : fleet.Apart) (j : ι)
    {turns : List (BusTurn ι)}
    (lossless : Transition.Along (Broadcast.step fleet.protocol) (Broadcast.Lossless j) fleet.start turns) :
    ∀ reached ∈ Transition.states (Broadcast.step fleet.protocol) fleet.start turns,
      (reached.knows j).phase = .stopped → reached.queue j = [] →
        ∀ i, reached.position i = reached.log.length →
          (reached.knows i).service.services[(fleet.config j).privateEndPoint]? = none := by
  intro reached member stopped arrived i all
  have invariant := Transition.invariant_along (fun s : BusState ι =>
      s.Placed ∧ s.Sent fleet.Posts ∧ s.arrived j ++ s.queue j = s.posted j ∧
        fleet.LeavesLast j (s.posted j) (s.knows j) ∧ fleet.Forgets i j (s.readBy i j) (s.knows i)) ?kept ?start
    lossless reached member
  case start =>
    refine ⟨fun _ => Nat.le_refl _, ⟨fun _ _ inside => absurd inside List.not_mem_nil,
      fun _ inside => absurd inside List.not_mem_nil⟩, rfl, nofun, rfl, fun _ => ?_⟩
    simp [start, boot]
  case kept =>
    intro s turn ⟨placed, sent, whole, leaves, forgets⟩ lossless
    refine ⟨placed.step turn, sent.step (fun i input => posts_act i input _) turn,
      Broadcast.arrived_step whole lossless, ?_, ?_⟩
    · -- The thread is moved on by its own turns only.
      rcases Broadcast.party_step fleet.protocol s turn j with ⟨same, posted⟩ | ⟨input, -, after, posted⟩ |
        ⟨readings, sender, message, -, -, after, posted⟩ | ⟨-, after, posted⟩
      · rwa [same, posted]
      · rw [after, posted]
        exact leaves.act input
      · rw [after, posted]
        exact leaves
      · rw [after]
        exact nofun
    · rcases Broadcast.reader_step placed turn i j with ⟨same, read⟩ | ⟨input, -, after, read⟩ |
        ⟨readings, other, message, -, next, after, read⟩ | ⟨-, after, read⟩
      · rwa [same, read]
      · rw [after, read]
        exact forgets
      · rw [after, read]
        exact forgets.receive readsBack apart (sent.next next) readings
      · rw [after]
        exact ⟨rfl, fun _ => by simp [protocol, boot]⟩
  obtain ⟨-, -, whole, leaves, -, forgotten⟩ := invariant
  obtain ⟨last, posted, leave⟩ := leaves stopped
  -- All that it has posted has been read, so that its leave was read last.
  rw [arrived, List.append_nil, ← Broadcast.readBy_of_all all j] at whole
  refine forgotten fun _ other read => ?_
  rw [whole, posted] at read
  rwa [← Option.some.inj read]

/-- The endpoints of the two differ. -/
theorem pair_apart : pair.Apart := by
  unfold Apart
  decide

/-- The security service is started anew, joins once more and stops, and the firmware service reads all its messages. -/
theorem left_not_listed_pair :
    ((pairAfter (pairJoins ++ [.restart true, .act true (.start, 105), .arrive true, .act true (.stop, 110),
      .arrive true, .read false ⟨111, 111⟩, .read false ⟨112, 112⟩])).knows false).service.services[
        "https://sec:17001"]? = none := by
  refine left_not_listed pair_readsBack pair_apart true ?_ _ (Transition.last_mem_states _ _) ?_ ?_ false ?_
  all_goals decide +kernel

/-! ### Who stays -/

/-- The messages of a service that another one has not read yet. -/
def unread [DecidableEq ι] (s : BusState ι) (i j : ι) : List KafkaMessage :=
  (s.posted j).drop (s.readBy i j).length

/--
One service posts often enough, and another one reads soon enough.

The first posts again within the period, and loses nothing; the second has nothing before it that is older than the
delay.  Neither is started anew, and they go by one clock: it is not behind the timestamp of what is read, or behind the
last time the second has read of the first.
-/
def Punctual [DecidableEq ι] (fleet : Fleet ι) (period delay : Nat) (i j : ι)
    (s : BusState ι) : BusTurn ι → Prop
  | .act party input =>
    party = j → ∀ last ∈ (s.posted j).getLast?, input.2.toNat ≤ last.timestamp.toNat + period
  | .arrive _ => True
  | .lose party => party ≠ j
  | .read party readings => party = i → readings.updated.toNat ≤ readings.now.toNat ∧
      (∀ entry ∈ s.log[s.position i]?, entry.1 = j → entry.2.timestamp.toNat ≤ readings.updated.toNat) ∧
      (∀ service ∈ (s.knows i).service.services[(fleet.config j).privateEndPoint]?,
        service.lastUpdate.toNat ≤ readings.now.toNat) ∧
      ((s.knows j).phase = .running →
        ∀ last ∈ (s.posted j).getLast?, readings.now.toNat ≤ last.timestamp.toNat + period) ∧
      ∀ message ∈ unread s i j, readings.now.toNat ≤ message.timestamp.toNat + delay
  | .restart party => party ≠ i ∧ party ≠ j

/-- Whether a turn is punctual can be checked. -/
instance decidablePunctual [DecidableEq ι] (fleet : Fleet ι) (period delay : Nat) (i j : ι)
    (s : BusState ι) :
    ∀ turn, Decidable (fleet.Punctual period delay i j s turn)
  | .act _ _ => inferInstanceAs (Decidable (_ → _))
  | .arrive _ => isTrue trivial
  | .lose _ => inferInstanceAs (Decidable (_ ≠ _))
  | .read _ _ => inferInstanceAs (Decidable (_ → _ ∧ _ ∧ _ ∧ _ ∧ _))
  | .restart _ => inferInstanceAs (Decidable (_ ∧ _))

/-- A join and a keep-alive are no leave. -/
theorem ReadsBack.ne_leave (readsBack : fleet.ReadsBack) {i j : ι} (hears : fleet.Hears i j) {event : String}
    (stays : event = eventJoin ∨ event = eventKeepAlive) :
    fleet.makeSystemEventMessage j event ≠ fleet.makeSystemEventMessage j eventLeave := by
  intro same
  have read := readsBack.alive hears stays ⟨0, 0⟩
  rw [same, readsBack.leaving hears ⟨0, 0⟩] at read
  cases read

/-- A service whose thread runs has posted no leave, and one whose thread has not been started has posted nothing. -/
def Announcing (fleet : Fleet ι) (j : ι) (posted : List KafkaMessage) (process : BusProcess) : Prop :=
  (process.phase = .idle → posted = []) ∧
    (process.phase = .running → ∀ message ∈ posted, ¬ fleet.IsLeave j message)

/-- The thread goes on announcing its service. -/
theorem Announcing.act (readsBack : fleet.ReadsBack) {i j : ι} (hears : fleet.Hears i j) {posted : List KafkaMessage}
    {process : BusProcess} (announcing : fleet.Announcing j posted process) (input : BusCall × UInt64) :
    fleet.Announcing j (posted ++ (fleet.protocol.act j input process).2) (fleet.protocol.act j input process).1 := by
  obtain ⟨call, time⟩ := input
  obtain ⟨phase, service⟩ := process
  obtain ⟨idle, running⟩ := announcing
  -- A thread that is started has posted nothing before, and one that goes on posts a keep-alive.
  cases call <;> cases phase <;>
    simp only [protocol, EventBusManager.run, List.map_cons, List.map_nil, List.append_nil, Announcing, reduceCtorEq,
      false_implies, true_and, and_true, forall_const] at idle running ⊢
  case start.idle =>
    subst idle
    intro message member
    rw [List.nil_append, List.mem_singleton] at member
    subst member
    exact readsBack.ne_leave hears (Or.inl rfl)
  case timer.running =>
    intro message member
    rcases List.mem_append.mp member with old | new
    · exact running message old
    · rw [List.mem_singleton.mp new]
      exact readsBack.ne_leave hears (Or.inr rfl)
  all_goals first | exact running | exact idle

/-- The entry of a service is there, and not older than the message of it that was read last. -/
def Listed (fleet : Fleet ι) (j : ι) (read : List KafkaMessage) (process : BusProcess) : Prop :=
  ∀ last ∈ read.getLast?, ∃ lastUpdate : UInt64,
    process.service.services[(fleet.config j).privateEndPoint]? = some ((fleet.config j).listed lastUpdate) ∧
      last.timestamp.toNat ≤ lastUpdate.toNat

/-- What one service knows of another one, between the turns of a run in which both are punctual. -/
structure Stays [DecidableEq ι] (fleet : Fleet ι) (period : Nat) (i j : ι)
    (s : BusState ι) : Prop where
  placed : s.Placed
  sent : s.Sent fleet.Posts
  whole : s.arrived j ++ s.queue j = s.posted j
  announcing : fleet.Announcing j (s.posted j) (s.knows j)
  spaced : (s.posted j).IsChain fun message next => next.timestamp.toNat ≤ message.timestamp.toNat + period
  own : (s.knows i).service.id = (fleet.config i).id
  listed : (s.knows j).phase = .running → fleet.Listed j (s.readBy i j) (s.knows i)

variable [DecidableEq ι] {period delay : Nat} {i j : ι} {s : BusState ι}

/-- What has been posted is what has been read, and what has not. -/
theorem posted_eq (whole : s.arrived j ++ s.queue j = s.posted j) :
    s.readBy i j ++ unread s i j = s.posted j ∧ s.readBy i j <+: s.posted j := by
  have front : s.readBy i j <+: s.posted j := by
    rw [← whole]
    exact (Broadcast.readBy_arrived s i j).trans (List.prefix_append _ _)
  exact ⟨List.prefix_append_drop front |>.symm, front⟩

/-- A message of a running service that is read in time brings its entry up to date. -/
theorem Stays.read_own (readsBack : fleet.ReadsBack) (hears : fleet.Hears i j)
    (within : period + delay ≤ 120) (stays : fleet.Stays period i j s) (running : (s.knows j).phase = .running)
    {readings : BusReadings} (punctual : fleet.Punctual period delay i j s (.read i readings))
    {message : KafkaMessage} (next : s.log[s.position i]? = some (j, message)) :
    fleet.Listed j (s.readBy i j ++ [message]) (fleet.protocol.receive i readings message (s.knows i)) := by
  obtain ⟨_, later, _, _, soon⟩ := punctual rfl
  obtain ⟨parts, -⟩ := posted_eq (i := i) stays.whole
  intro last found
  obtain rfl : message = last := by simpa using found
  -- The message is one that has not been read, so that it is younger than the delay.
  have first : message ∈ unread s i j := by
    have front := (Broadcast.readBy_next next).trans (List.prefix_append _ (s.queue j))
    rw [stays.whole] at front
    obtain ⟨rest, all⟩ := front
    rw [unread, ← all, List.append_assoc, List.drop_left]
    exact List.mem_append_left rest (List.mem_singleton_self message)
  have announces : ¬ fleet.IsLeave j message := by
    refine stays.announcing.2 running message ?_
    rw [← parts]
    exact List.mem_append_right _ first
  have young := soon message first
  have posted : message.timestamp.toNat ≤ readings.updated.toNat := later (j, message) next rfl
  refine ⟨readings.updated, (readsBack.services stays.own (stays.sent.next next) readings _ _).mpr
    ⟨Or.inl ⟨hears, announces, rfl, rfl⟩, ?_, ?_⟩, posted⟩
  · show ¬ readings.updated.toNat + 120 < readings.now.toNat
    omega
  · rintro ⟨before, -⟩
    change readings.now.toNat < readings.updated.toNat at before
    omega

/-- Another message that is read in time spares the entry of a running service. -/
theorem Stays.read_other (readsBack : fleet.ReadsBack) (apart : fleet.Apart)
    (within : period + delay ≤ 120) (stays : fleet.Stays period i j s) (running : (s.knows j).phase = .running)
    {readings : BusReadings} (punctual : fleet.Punctual period delay i j s (.read i readings)) {other : ι}
    (different : other ≠ j) {message : KafkaMessage} (next : s.log[s.position i]? = some (other, message)) :
    fleet.Listed j (s.readBy i j) (fleet.protocol.receive i readings message (s.knows i)) := by
  obtain ⟨_, _, kept, recent, soon⟩ := punctual rfl
  obtain ⟨parts, -⟩ := posted_eq (i := i) stays.whole
  intro last found
  obtain ⟨lastUpdate, held, posted⟩ := stays.listed running last found
  -- The next message that there is to read is not late, and neither is the one that is still to be posted.
  have young : readings.now.toNat ≤ lastUpdate.toNat + 120 := by
    cases waiting : unread s i j with
    | nil =>
      rw [waiting, List.append_nil] at parts
      rw [parts] at found
      have limit := recent running last found
      omega
    | cons message rest =>
      have limit := soon message (by rw [waiting]; exact List.mem_cons_self)
      have chain := stays.spaced
      rw [← parts, waiting, List.isChain_append] at chain
      have gap := chain.2.2 last found message rfl
      omega
  have ahead := kept _ held
  refine ⟨lastUpdate, (readsBack.services stays.own (stays.sent.next next) readings _ _).mpr
    ⟨Or.inr ⟨held, fun both => different (apart _ _ both.2).symm⟩, ?_, ?_⟩, posted⟩
  · show ¬ lastUpdate.toNat + 120 < readings.now.toNat
    omega
  · rintro ⟨before, -⟩
    change readings.now.toNat < lastUpdate.toNat at before
    change lastUpdate.toNat ≤ readings.now.toNat at ahead
    omega

/-- A punctual reading leaves the entry of a running service there. -/
theorem Stays.read (readsBack : fleet.ReadsBack) (apart : fleet.Apart) (hears : fleet.Hears i j)
    (within : period + delay ≤ 120) (stays : fleet.Stays period i j s) (running : (s.knows j).phase = .running)
    {readings : BusReadings} (punctual : fleet.Punctual period delay i j s (.read i readings)) {other : ι}
    {message : KafkaMessage} (next : s.log[s.position i]? = some (other, message)) :
    fleet.Listed j (s.readBy i j ++ if other = j then [message] else [])
      (fleet.protocol.receive i readings message (s.knows i)) := by
  by_cases same : other = j
  · subst same
    rw [if_pos rfl]
    exact stays.read_own readsBack hears within running punctual next
  · rw [if_neg same, List.append_nil]
    exact stays.read_other readsBack apart within running punctual same next

omit [DecidableEq ι] in
/-- At each stop the thread posts one message at most, and it runs on only if it ran or had not been started. -/
theorem act_cases (fleet : Fleet ι) (j : ι) (input : BusCall × UInt64) (process : BusProcess) :
    ((fleet.protocol.act j input process).2 = [] ∨
      ∃ payload, (fleet.protocol.act j input process).2 = [⟨payload, input.2⟩]) ∧
      ((fleet.protocol.act j input process).1.phase = .running →
        process.phase = .running ∨ process.phase = .idle) ∧
      (fleet.protocol.act j input process).1.service = process.service := by
  obtain ⟨call, time⟩ := input
  obtain ⟨phase, service⟩ := process
  cases call <;> cases phase <;> simp [protocol, EventBusManager.run]

/-- In a punctual turn the service that is known posts in time, and what it posts announces it. -/
theorem Stays.sender (readsBack : fleet.ReadsBack) (hears : fleet.Hears i j)
    (stays : fleet.Stays period i j s) {turn : BusTurn ι}
    (punctual : fleet.Punctual period delay i j s turn) :
    fleet.Announcing j ((Broadcast.step fleet.protocol s turn).posted j)
        ((Broadcast.step fleet.protocol s turn).knows j) ∧
      ((Broadcast.step fleet.protocol s turn).posted j).IsChain
        (fun message next => next.timestamp.toNat ≤ message.timestamp.toNat + period) ∧
      (((Broadcast.step fleet.protocol s turn).knows j).phase = .running →
        (s.knows j).phase = .running ∨ s.posted j = []) := by
  -- Only its own turns move its thread on.
  rcases Broadcast.party_step fleet.protocol s turn j with ⟨same, posted⟩ | ⟨input, rfl, after, posted⟩ |
    ⟨readings, other, message, -, -, after, posted⟩ | ⟨rfl, -, -⟩
  · rw [same, posted]
    exact ⟨stays.announcing, stays.spaced, Or.inl⟩
  · rw [after, posted]
    refine ⟨stays.announcing.act readsBack hears input, ?_, fun running => ?_⟩
    · -- At most one message is posted, within the period from the one before it.
      rcases (act_cases fleet j input (s.knows j)).1 with none | ⟨payload, one⟩
      · rw [none, List.append_nil]
        exact stays.spaced
      · rw [one, List.isChain_append]
        refine ⟨stays.spaced, List.isChain_singleton _, fun last found message first => ?_⟩
        obtain rfl : ⟨payload, input.2⟩ = message := by simpa using first
        exact punctual rfl last found
    · rcases (act_cases fleet j input (s.knows j)).2.1 running with before | idle
      · exact Or.inl before
      · exact Or.inr (stays.announcing.1 idle)
  · rw [after, posted]
    exact ⟨stays.announcing, stays.spaced, Or.inl⟩
  · exact absurd rfl punctual.2

/-- A punctual turn keeps what one service knows of the other. -/
theorem Stays.step (readsBack : fleet.ReadsBack) (apart : fleet.Apart) (hears : fleet.Hears i j)
    (within : period + delay ≤ 120) (stays : fleet.Stays period i j s)
    {turn : BusTurn ι} (punctual : fleet.Punctual period delay i j s turn) :
    fleet.Stays period i j (Broadcast.step fleet.protocol s turn) := by
  have different : i ≠ j := by
    rintro rfl
    exact hears rfl
  have lossless : Broadcast.Lossless j s turn := by
    cases turn with
    | act | arrive | read => trivial
    | lose party => exact fun same => absurd same punctual
    | restart party => exact fun same => absurd same punctual.2
  have front := (posted_eq (i := i) stays.whole).2
  have sender := stays.sender readsBack hears punctual
  refine ⟨stays.placed.step turn, stays.sent.step (fun i input => posts_act i input _) turn,
    Broadcast.arrived_step stays.whole lossless, sender.1, sender.2.1, ?_, fun running => ?_⟩
  · rcases Broadcast.party_step fleet.protocol s turn i with ⟨same, -⟩ | ⟨input, -, after, -⟩ |
      ⟨readings, other, message, -, -, after, -⟩ | ⟨-, after, -⟩
    · rw [same, stays.own]
    · rw [after, (act_cases fleet i input (s.knows i)).2.2, stays.own]
    · rw [after]
      exact (id_received _ _).trans stays.own
    · rw [after]
      rfl
  · -- The service that knows: reading refreshes or spares the entry.
    have unposted : s.posted j = [] → s.readBy i j = [] := fun none => List.prefix_nil.mp (none ▸ front)
    rcases Broadcast.reader_step stays.placed turn i j with ⟨same, read⟩ | ⟨input, -, after, read⟩ |
      ⟨readings, other, message, rfl, next, after, read⟩ | ⟨rfl, -, -⟩
    · rw [same, read]
      rcases sender.2.2 running with before | none
      · exact stays.listed before
      · rw [unposted none]
        exact nofun
    · rw [after, read]
      rcases sender.2.2 running with before | none
      · have listed := stays.listed before
        rwa [Listed, ← (act_cases fleet i input (s.knows i)).2.2] at listed
      · rw [unposted none]
        exact nofun
    · have unchanged : (Broadcast.step fleet.protocol s (.read i readings)).knows j = s.knows j := by
        simp only [Broadcast.step, next, Function.update_of_ne (Ne.symm different)]
      rw [unchanged] at running
      rw [after, read]
      exact stays.read readsBack apart hears within running punctual next
    · exact absurd rfl punctual.1

/--
A running service stays on the list of a service that reads in time.

Neither of the two is started anew, and their clocks agree and do not run backwards.  In every interleaving in which the
one posts within each period and loses no message, the other reads what is posted within a delay, and period and
delay make up two minutes at most, the entry of the one is there from the first of its messages on, with what its
configuration says, and no older than its last message that has been read.
-/
theorem running_listed (readsBack : fleet.ReadsBack) (apart : fleet.Apart) (hears : fleet.Hears i j)
    (within : period + delay ≤ 120) {turns : List (BusTurn ι)}
    (punctual : Transition.Along (Broadcast.step fleet.protocol) (fleet.Punctual period delay i j) fleet.start turns) :
    ∀ reached ∈ Transition.states (Broadcast.step fleet.protocol) fleet.start turns,
      (reached.knows j).phase = .running → ∀ last ∈ (reached.readBy i j).getLast?, ∃ lastUpdate : UInt64,
        (reached.knows i).service.services[(fleet.config j).privateEndPoint]? =
            some ((fleet.config j).listed lastUpdate) ∧ last.timestamp.toNat ≤ lastUpdate.toNat := by
  intro reached member running
  have stays := Transition.invariant_along (fleet.Stays period i j)
    (fun s turn stays punctual => stays.step readsBack apart hears within punctual) ?start punctual reached member
  case start =>
    refine ⟨fun _ => Nat.le_refl _, ⟨fun _ _ inside => absurd inside List.not_mem_nil,
      fun _ inside => absurd inside List.not_mem_nil⟩, rfl, ⟨fun _ => rfl, nofun⟩, List.isChain_nil, rfl,
      fun _ => nofun⟩
  exact stays.listed running

/-- Half a minute later the security service announces itself again, and the firmware service still lists it. -/
theorem running_listed_pair :
    ∃ lastUpdate : UInt64,
      ((pairAfter (pairJoins ++ [.act true (.timer, 130), .arrive true, .read false ⟨131, 131⟩])).knows
        false).service.services["https://sec:17001"]? = some ((pairConfig true).listed lastUpdate) ∧
        130 ≤ lastUpdate.toNat := by
  have hears : pair.Hears false true := by
    unfold Hears
    decide
  have punctual : Transition.Along (Broadcast.step pair.protocol) (pair.Punctual 60 60 false true) pair.start
      (pairJoins ++ [.act true (.timer, 130), .arrive true, .read false ⟨131, 131⟩]) := by
    decide +kernel
  have running : ((pairAfter (pairJoins ++ [.act true (.timer, 130), .arrive true,
      .read false ⟨131, 131⟩])).knows true).phase = .running := by
    decide +kernel
  -- What has been read last is the message of the timer.
  have last : ⟨pair.makeSystemEventMessage true eventKeepAlive, 130⟩ ∈ ((pairAfter (pairJoins ++
      [.act true (.timer, 130), .arrive true, .read false ⟨131, 131⟩])).readBy false true).getLast? := by
    decide +kernel
  exact running_listed pair_readsBack pair_apart hears (Nat.le_refl 120) punctual _
    (Transition.last_mem_states _ _) running _ last

end Fleet

end Fms
