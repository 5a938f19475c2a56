import Fms.Relation.Run
import Fms.Poco.Text
import Fms.Security.AuthClient

/-! `MicroService`: the peers of the service, as their messages on the bus announce them. -/

namespace Fms

/-- `Types::MicroServiceMeta`. -/
structure MicroServiceMeta where
  id : UInt64 := 0
  type : String := ""
  privateEndPoint : String := ""
  publicEndPoint : String := ""
  accessKey : String := ""
  version : String := ""
  lastUpdate : UInt64 := 0
  deriving DecidableEq, Repr

/-- `Types::MicroServiceMetaMap`, by private endpoint. -/
abbrev MicroServiceMetaMap := Std.ExtTreeMap String MicroServiceMeta

namespace ServiceEvents

/-- `EVENT_JOIN`. -/
def eventJoin : String := "join"

/-- `EVENT_LEAVE`. -/
def eventLeave : String := "leave"

/-- `EVENT_KEEP_ALIVE`. -/
def eventKeepAlive : String := "keep-alive"

/-- `EVENT_REMOVE_TOKEN`. -/
def eventRemoveToken : String := "remove-token"

/-- The members of a message that a join, a keep-alive and a leave need. -/
def serviceFields : List String :=
  ["type", "publicEndPoint", "privateEndPoint", "version", "key"]

end ServiceEvents

open ServiceEvents

/-- A message on the bus, with what `Utils::Now` reads while it is processed. -/
structure BusMessage where
  payload : String
  /-- The reading a service is stamped with. -/
  updated : UInt64
  /-- The reading the ages are taken from. -/
  now : UInt64
  deriving DecidableEq, Repr

/-- What a message asks of the service. -/
inductive BusEvent where
  | nothing
  | alive (service : MicroServiceMeta)
  | leaving (privateEndPoint : String)
  | removeToken (token : String)

/-- The state of `MicroService` that bus messages read and write. -/
structure MicroService where
  /-- `ID_`. -/
  id : UInt64
  services : MicroServiceMetaMap := ∅
  authClient : AuthClient := {}

namespace MicroService

/-- The entry a join or a keep-alive makes; a conversion may throw. -/
def serviceInfo (poco : Poco) (id updated : UInt64) (object : JsonObject) :
    Option MicroServiceMeta := do
  let type ← poco.toString (object.get "type")
  let privateEndPoint ← poco.toString (object.get "privateEndPoint")
  let publicEndPoint ← poco.toString (object.get "publicEndPoint")
  let accessKey ← poco.toString (object.get "key")
  let version ← poco.toString (object.get "version")
  return {
    id, privateEndPoint, publicEndPoint, accessKey, version
    type := toLower type
    lastUpdate := updated }

/-- What `BusMessageReceived` does with an event of a peer. -/
def peerEvent (poco : Poco) (id updated : UInt64) (event : String) (object : JsonObject) :
    Option BusEvent :=
  if event = eventJoin ∨ event = eventKeepAlive ∨ event = eventLeave then
    if serviceFields.all object.has then
      if event = eventLeave then (poco.toString (object.get "privateEndPoint")).map .leaving
      else (serviceInfo poco id updated object).map .alive
    else some .nothing
  else if event = eventRemoveToken then
    if object.has "token" then (poco.toString (object.get "token")).map .removeToken
    else some .nothing
  else some .nothing

/-- The first half of `BusMessageReceived`, up to the exception that ends it. -/
def readBusMessage (poco : Poco) (ownId updated : UInt64) (payload : String) : Option BusEvent := do
  let object ← poco.parseObject payload
  if object.has "id" && object.has "event" then
    let id ← poco.toUInt64 (object.get "id")
    let event ← poco.toString (object.get "event")
    if id ≠ ownId then peerEvent poco id updated event object else some .nothing
  else
    -- The bad message is written out before the error is logged.
    if poco.stringify (some object) then some .nothing else none

/-- The entries and the caches after an event. -/
def apply (s : MicroService) : BusEvent → MicroService
  | .nothing => s
  | .alive service => { s with services := s.services.insert service.privateEndPoint service }
  | .leaving privateEndPoint => { s with services := s.services.erase privateEndPoint }
  | .removeToken token => { s with authClient := s.authClient.removedCachedToken token }

/-- The loop that ends `BusMessageReceived`: an entry goes by its age, an unsigned difference. -/
def removeZombies (now : UInt64) (s : MicroService) : MicroService :=
  { s with services := s.services.filter fun _ service => !decide (now - service.lastUpdate > 120) }

/-- `BusMessageReceived`: an exception leaves everything as it is, the old entries included. -/
def busMessageReceived (poco : Poco) (s : MicroService) (message : BusMessage) : MicroService :=
  match readBusMessage poco s.id message.updated message.payload with
  | some event => removeZombies message.now (s.apply event)
  | none => s

/-- `GetServices`, in the order of the map. -/
def getServices (s : MicroService) : List MicroServiceMeta :=
  s.services.toList.map Prod.snd

/-- `GetServices` for one type of service. -/
def getServicesOfType (s : MicroService) (type : String) : List MicroServiceMeta :=
  s.getServices.filter fun service => service.type = toLower type

end MicroService

/-- The service, and the well-formed messages it has processed, oldest first. -/
structure Registry where
  service : MicroService
  heard : List BusMessage := []

namespace Registry

/-- A message carries an event, and comes from another service than the one with the given id. -/
structure FromPeer (poco : Poco) (ownId : UInt64) (message : BusMessage) (object : JsonObject)
    (id : UInt64) (event : String) : Prop where
  parsed : poco.parseObject message.payload = some object
  hasId : object.has "id" = true
  hasEvent : object.has "event" = true
  idRead : poco.toUInt64 (object.get "id") = some id
  eventRead : poco.toString (object.get "event") = some event
  foreign : id ≠ ownId

/-- A message is a join or a keep-alive of a peer with all its fields, which make the given entry. -/
def Announces (poco : Poco) (ownId : UInt64) (message : BusMessage) (service : MicroServiceMeta) :
    Prop :=
  ∃ object id event, FromPeer poco ownId message object id event ∧
    (event = eventJoin ∨ event = eventKeepAlive) ∧ (∀ field ∈ serviceFields, object.has field = true) ∧
    ∃ type, poco.toString (object.get "type") = some type ∧
      poco.toString (object.get "privateEndPoint") = some service.privateEndPoint ∧
      poco.toString (object.get "publicEndPoint") = some service.publicEndPoint ∧
      poco.toString (object.get "key") = some service.accessKey ∧
      poco.toString (object.get "version") = some service.version ∧
      service.id = id ∧ service.type = toLower type ∧ service.lastUpdate = message.updated

/-- A message is a leave of a peer with all its fields. -/
def Leaves (poco : Poco) (ownId : UInt64) (message : BusMessage) (privateEndPoint : String) : Prop :=
  ∃ object id, FromPeer poco ownId message object id eventLeave ∧
    (∀ field ∈ serviceFields, object.has field = true) ∧
    poco.toString (object.get "privateEndPoint") = some privateEndPoint

/-- A message joins, keeps alive or leaves an endpoint. -/
def Mentions (poco : Poco) (ownId : UInt64) (message : BusMessage) (privateEndPoint : String) :
    Prop :=
  (∃ service, Announces poco ownId message service ∧ service.privateEndPoint = privateEndPoint) ∨
    Leaves poco ownId message privateEndPoint

/-- A message has no id or no event, or the id of the service itself. -/
def Silent (poco : Poco) (ownId : UInt64) (message : BusMessage) : Prop :=
  ∀ object, poco.parseObject message.payload = some object →
    (object.has "id" && object.has "event") = false ∨
      poco.toUInt64 (object.get "id") = some ownId

/-- A time is more than 120 seconds before a reading; a later time is not. -/
def Zombie (lastUpdate now : UInt64) : Prop :=
  lastUpdate.toNat + 120 < now.toNat

/--
What the registry has to hold: the entry of the last message that mentions an endpoint.

That message is no leave, and at none of the readings since then was the entry too old.
-/
def Live (poco : Poco) (ownId : UInt64) (heard : List BusMessage) (privateEndPoint : String)
    (service : MicroServiceMeta) : Prop :=
  ∃ before message after, heard = before ++ message :: after ∧
    Announces poco ownId message service ∧ service.privateEndPoint = privateEndPoint ∧
    (∀ later ∈ after, ¬ Mentions poco ownId later privateEndPoint) ∧
    ∀ purge ∈ message :: after, ¬ Zombie service.lastUpdate purge.now

/-- The registry holds exactly the live endpoints. -/
def TracksPeers (poco : Poco) (r : Registry) : Prop :=
  ∀ privateEndPoint service, r.service.services[privateEndPoint]? = some service ↔
    Live poco r.service.id r.heard privateEndPoint service

/-- A time is after a reading, and the unsigned difference does not wrap to 120 or less. -/
def Ahead (lastUpdate now : UInt64) : Prop :=
  now.toNat < lastUpdate.toNat ∧ lastUpdate.toNat + 120 < now.toNat + 18446744073709551616

/-- A well-formed message leaves no entry that is stamped after the reading the ages are taken from. -/
def NoneAhead (poco : Poco) (r : Registry) (message : BusMessage) : Prop :=
  (MicroService.readBusMessage poco r.service.id message.updated message.payload).isSome = true →
    (∀ service, Announces poco r.service.id message service →
      ¬ Ahead service.lastUpdate message.now) ∧
    ∀ privateEndPoint service, r.service.services[privateEndPoint]? = some service →
      ¬ Mentions poco r.service.id message privateEndPoint → ¬ Ahead service.lastUpdate message.now

/-- The service after a message; a message that throws is not well-formed. -/
def step (poco : Poco) (r : Registry) (message : BusMessage) : Registry where
  service := r.service.busMessageReceived poco message
  heard :=
    if (MicroService.readBusMessage poco r.service.id message.updated message.payload).isSome then
      r.heard ++ [message]
    else r.heard

/-- The service before any message. -/
def start (ownId : UInt64) : Registry where
  service := { id := ownId }

variable {poco : Poco} {ownId : UInt64} {message : BusMessage} {r : Registry}
  {privateEndPoint : String} {service : MicroServiceMeta}

/-- The message of a peer is read as its event. -/
theorem FromPeer.read {object : JsonObject} {id : UInt64} {event : String}
    (peer : FromPeer poco ownId message object id event) :
    MicroService.readBusMessage poco ownId message.updated message.payload =
      MicroService.peerEvent poco id message.updated event object := by
  simp [MicroService.readBusMessage, peer.parsed, peer.hasId, peer.hasEvent, peer.idRead,
    peer.eventRead, peer.foreign]

/-- A message that asks for something is the message of a peer. -/
theorem fromPeer_of_read {asked : BusEvent}
    (read : MicroService.readBusMessage poco ownId message.updated message.payload = some asked)
    (something : asked ≠ .nothing) :
    ∃ object id event, FromPeer poco ownId message object id event ∧
      MicroService.peerEvent poco id message.updated event object = some asked := by
  unfold MicroService.readBusMessage at read
  cases parsed : poco.parseObject message.payload with
  | none => simp [parsed] at read
  | some object =>
    cases fields : (object.has "id" && object.has "event") with
    | false =>
      -- Without an id or an event the message removes a token at most.
      simp only [parsed, fields, Option.bind_eq_bind, Option.bind_some] at read
      split at read
      · contradiction
      · split at read
        · exact absurd (Option.some.inj read).symm something
        · contradiction
    | true =>
      obtain ⟨hasId, hasEvent⟩ := Bool.and_eq_true_iff.mp fields
      simp only [parsed, fields, Option.bind_eq_bind, Option.bind_some, if_true] at read
      obtain ⟨id, idRead, read⟩ := Option.bind_eq_some_iff.mp read
      obtain ⟨event, eventRead, read⟩ := Option.bind_eq_some_iff.mp read
      -- The service ignores its own messages.
      by_cases foreign : id ≠ ownId
      · rw [if_pos foreign] at read
        exact ⟨object, id, event, ⟨parsed, hasId, hasEvent, idRead, eventRead, foreign⟩, read⟩
      · rw [if_neg foreign] at read
        exact absurd (Option.some.inj read).symm something

/-- The entry is made when every conversion succeeds. -/
theorem serviceInfo_eq_some {id updated : UInt64} {object : JsonObject} :
    MicroService.serviceInfo poco id updated object = some service ↔
      ∃ type, poco.toString (object.get "type") = some type ∧
        poco.toString (object.get "privateEndPoint") = some service.privateEndPoint ∧
        poco.toString (object.get "publicEndPoint") = some service.publicEndPoint ∧
        poco.toString (object.get "key") = some service.accessKey ∧
        poco.toString (object.get "version") = some service.version ∧
        service.id = id ∧ service.type = toLower type ∧ service.lastUpdate = updated := by
  constructor
  · intro made
    -- The conversions are made one after the other, and the first that throws ends it.
    simp only [MicroService.serviceInfo, Option.bind_eq_bind, Option.bind_eq_some_iff] at made
    obtain ⟨type, typeRead, _, private_, _, public_, _, key, _, version, made⟩ := made
    cases made
    exact ⟨type, typeRead, private_, public_, key, version, rfl, rfl, rfl⟩
  · rintro ⟨type, typeRead, private_, public_, key, version, rfl, lowered, rfl⟩
    obtain ⟨id, lower, _, _, _, _, _⟩ := service
    subst lowered
    simp_all [MicroService.serviceInfo]

/-- What the event of a peer can ask for: one thing for each kind of event. -/
theorem peerEvent_cases {id updated : UInt64} {event : String} {object : JsonObject} {asked : BusEvent}
    (read : MicroService.peerEvent poco id updated event object = some asked) :
    asked = .nothing ∨
      ((event = eventJoin ∨ event = eventKeepAlive) ∧
        (∀ field ∈ serviceFields, object.has field = true) ∧
        ∃ service, MicroService.serviceInfo poco id updated object = some service ∧
          asked = .alive service) ∨
      (event = eventLeave ∧ (∀ field ∈ serviceFields, object.has field = true) ∧
        ∃ endpoint, poco.toString (object.get "privateEndPoint") = some endpoint ∧
          asked = .leaving endpoint) ∨
      ∃ token, asked = .removeToken token := by
  simp only [MicroService.peerEvent] at read
  split at read
  · rename_i known
    split at read
    · rename_i fields
      split at read
      · -- A leave.
        rename_i leave
        obtain ⟨endpoint, converted, same⟩ := Option.map_eq_some_iff.mp read
        exact Or.inr (Or.inr (Or.inl
          ⟨leave, List.all_eq_true.mp fields, endpoint, converted, same.symm⟩))
      · -- A join or a keep-alive.
        rename_i stays
        obtain ⟨made, info, same⟩ := Option.map_eq_some_iff.mp read
        have kind : event = eventJoin ∨ event = eventKeepAlive := by
          rcases known with join | keepAlive | leave
          · exact Or.inl join
          · exact Or.inr keepAlive
          · exact absurd leave stays
        exact Or.inr (Or.inl ⟨kind, List.all_eq_true.mp fields, made, info, same.symm⟩)
    · exact Or.inl (Option.some.inj read).symm
  · split at read
    · split at read
      · obtain ⟨token, _, same⟩ := Option.map_eq_some_iff.mp read
        exact Or.inr (Or.inr (Or.inr ⟨token, same.symm⟩))
      · exact Or.inl (Option.some.inj read).symm
    · exact Or.inl (Option.some.inj read).symm

/-- A message announces an entry exactly when it is read so. -/
theorem read_eq_alive :
    MicroService.readBusMessage poco ownId message.updated message.payload = some (.alive service) ↔
      Announces poco ownId message service := by
  constructor
  · intro read
    obtain ⟨object, id, event, peer, asked⟩ := fromPeer_of_read read (by simp)
    -- Only a join or a keep-alive makes an entry.
    rcases peerEvent_cases asked with nothing | ⟨kind, fields, made, info, same⟩ | ⟨_, _, _, _, same⟩ |
      ⟨_, same⟩
    · contradiction
    · cases same
      exact ⟨object, id, event, peer, kind, fields, serviceInfo_eq_some.mp info⟩
    · contradiction
    · contradiction
  · rintro ⟨object, id, event, peer, kind, fields, info⟩
    rw [peer.read]
    have stays : event ≠ eventLeave := by
      rcases kind with rfl | rfl
      · decide
      · decide
    have known : event = eventJoin ∨ event = eventKeepAlive ∨ event = eventLeave :=
      kind.elim Or.inl fun keepAlive => Or.inr (Or.inl keepAlive)
    simp only [MicroService.peerEvent, if_pos known, if_pos (List.all_eq_true.mpr fields),
      if_neg stays, serviceInfo_eq_some.mpr info, Option.map_some]

/-- A message leaves an endpoint exactly when it is read so. -/
theorem read_eq_leaving :
    MicroService.readBusMessage poco ownId message.updated message.payload =
        some (.leaving privateEndPoint) ↔
      Leaves poco ownId message privateEndPoint := by
  constructor
  · intro read
    obtain ⟨object, id, event, peer, asked⟩ := fromPeer_of_read read (by simp)
    -- Only a leave converts an endpoint alone.
    rcases peerEvent_cases asked with nothing | ⟨_, _, _, _, same⟩ |
      ⟨rfl, fields, endpoint, converted, same⟩ | ⟨_, same⟩
    · contradiction
    · contradiction
    · cases same
      exact ⟨object, id, peer, fields, converted⟩
    · contradiction
  · rintro ⟨object, id, peer, fields, converted⟩
    rw [peer.read]
    -- A leave is one of the three known events, and is looked at before the others.
    simp [MicroService.peerEvent, List.all_eq_true.mpr fields, converted]

/-- The entries after the event of a well-formed message, before the old ones go. -/
theorem getElem?_apply {asked : BusEvent} (s : MicroService)
    (read : MicroService.readBusMessage poco ownId message.updated message.payload = some asked) :
    (s.apply asked).services[privateEndPoint]? = some service ↔
      (Announces poco ownId message service ∧ service.privateEndPoint = privateEndPoint) ∨
        (s.services[privateEndPoint]? = some service ∧
          ¬ Mentions poco ownId message privateEndPoint) := by
  -- What the message announces and leaves is what it has been read as.
  have announces : ∀ other, Announces poco ownId message other ↔ asked = .alive other := by
    intro other
    rw [← read_eq_alive, read, Option.some_inj]
  have leaves : ∀ endpoint, Leaves poco ownId message endpoint ↔ asked = .leaving endpoint := by
    intro endpoint
    rw [← read_eq_leaving, read, Option.some_inj]
  simp only [Mentions, announces, leaves]
  cases asked with
  | nothing => simp [MicroService.apply]
  | removeToken token => simp [MicroService.apply]
  | leaving endpoint =>
    -- The endpoint that leaves is erased, whatever was known of it.
    simp only [MicroService.apply, Std.ExtTreeMap.getElem?_erase, Std.compare_eq_iff_eq]
    by_cases same : endpoint = privateEndPoint
    · simp [same]
    · simp [same]
  | alive added =>
    simp only [MicroService.apply, Std.ExtTreeMap.getElem?_insert, Std.compare_eq_iff_eq]
    by_cases same : added.privateEndPoint = privateEndPoint
    · subst same
      simp only [if_true, Option.some_inj]
      constructor
      · rintro rfl
        exact Or.inl ⟨rfl, rfl⟩
      · -- The old entry of the endpoint does not survive being mentioned.
        rintro (⟨added_, _⟩ | ⟨_, unmentioned⟩)
        · exact BusEvent.alive.inj added_
        · exact absurd (Or.inl ⟨added, rfl, rfl⟩) unmentioned
    · rw [if_neg same]
      constructor
      · intro before
        refine Or.inr ⟨before, ?_⟩
        rintro (⟨other, same_, named⟩ | leave)
        · cases same_
          exact same named
        · contradiction
      · rintro (⟨added_, named⟩ | ⟨before, _⟩)
        · cases added_
          exact absurd named same
        · exact before

/-- The unsigned age is over 120 seconds for a zombie, and for a time ahead of the reading. -/
theorem age_gt_iff (lastUpdate now : UInt64) :
    now - lastUpdate > 120 ↔ Zombie lastUpdate now ∨ Ahead lastUpdate now := by
  have bound := UInt64.toNat_lt lastUpdate
  have nowBound := UInt64.toNat_lt now
  rw [gt_iff_lt, UInt64.lt_iff_toNat_lt, UInt64.toNat_sub]
  unfold Zombie Ahead
  have limit : (120 : UInt64).toNat = 120 := rfl
  rw [limit]
  -- The difference wraps exactly when the stamp is later than the reading.
  by_cases later : now.toNat < lastUpdate.toNat
  · rw [Nat.mod_eq_of_lt (by omega)]
    omega
  · have wraps : 2 ^ 64 - lastUpdate.toNat + now.toNat = now.toNat - lastUpdate.toNat + 2 ^ 64 := by
      omega
    rw [wraps, Nat.add_mod_right, Nat.mod_eq_of_lt (by omega)]
    omega

/-- A further message makes its own endpoint live, or leaves the others so, as their age allows. -/
theorem live_append_singleton {heard : List BusMessage} :
    Live poco ownId (heard ++ [message]) privateEndPoint service ↔
      ((Announces poco ownId message service ∧ service.privateEndPoint = privateEndPoint) ∨
        (Live poco ownId heard privateEndPoint service ∧
          ¬ Mentions poco ownId message privateEndPoint)) ∧
      ¬ Zombie service.lastUpdate message.now := by
  constructor
  · rintro ⟨before, announced, after, split_, announces, named, unmentioned, young⟩
    -- The announcement is the further message, or one of those before it.
    rcases List.eq_nil_or_concat after with rfl | ⟨after, last, rfl⟩
    · obtain ⟨rfl, same⟩ := List.append_inj' split_ rfl
      cases same
      exact ⟨Or.inl ⟨announces, named⟩, young _ (by simp)⟩
    · rw [List.concat_eq_append, ← List.cons_append, ← List.append_assoc] at split_
      obtain ⟨rfl, same⟩ := List.append_inj' split_ rfl
      cases same
      refine ⟨Or.inr ⟨⟨before, announced, after, rfl, announces, named, ?_, ?_⟩, ?_⟩, young _ (by simp)⟩
      · -- What held up to the further message holds up to the one before it.
        exact fun later member => unmentioned later (by simp [member])
      · exact fun purge member => young purge (by
          rcases List.mem_cons.mp member with rfl | later
          · simp
          · simp [later])
      · exact unmentioned message (by simp)
  · rintro ⟨⟨announces, named⟩ | ⟨⟨before, announced, after, rfl, announces, named, unmentioned, young⟩,
      spared⟩, last⟩
    · exact ⟨heard, message, [], rfl, announces, named, by simp, by simpa using last⟩
    · -- The announcement stays where it is, and one more message has left it alone.
      refine ⟨before, announced, after ++ [message], by simp, announces, named, ?_, ?_⟩
      · intro later member
        rcases List.mem_append.mp member with earlier | same
        · exact unmentioned later earlier
        · rw [List.mem_singleton.mp same]
          exact spared
      · intro purge member
        rw [← List.cons_append] at member
        rcases List.mem_append.mp member with earlier | same
        · exact young purge earlier
        · rw [List.mem_singleton.mp same]
          exact last

/-- An old entry, or one from ahead of the reading, does not outlive a message. -/
theorem getElem?_removeZombies (now : UInt64) (s : MicroService) :
    (s.removeZombies now).services[privateEndPoint]? = some service ↔
      s.services[privateEndPoint]? = some service ∧
        ¬ Zombie service.lastUpdate now ∧ ¬ Ahead service.lastUpdate now := by
  -- The loop keeps what its unsigned comparison does not take for old.
  rw [MicroService.removeZombies, Std.ExtTreeMap.getElem?_filter', Option.filter_eq_some_iff]
  simp [age_gt_iff]

/-- A message does not change the id of the service. -/
theorem id_step : (step poco r message).service.id = r.service.id := by
  -- No message of the bus changes the own id.
  simp only [step, MicroService.busMessageReceived]
  split
  · rename_i asked _
    cases asked with
    | nothing => rfl
    | alive service => rfl
    | leaving endpoint => rfl
    | removeToken token => rfl
  · rfl

/-- A registry that tracks its peers goes on to do so exactly when no entry is ahead of the reading. -/
theorem tracksPeers_step_iff (tracks : TracksPeers poco r) :
    TracksPeers poco (step poco r message) ↔ NoneAhead poco r message := by
  unfold NoneAhead
  cases read : MicroService.readBusMessage poco r.service.id message.updated message.payload with
  | none =>
    -- Nothing has happened.
    have same : step poco r message = r := by simp [step, MicroService.busMessageReceived, read]
    rw [same]
    simpa using tracks
  | some asked =>
    have services : (step poco r message).service = (r.service.apply asked).removeZombies message.now := by
      simp [step, MicroService.busMessageReceived, read]
    have heard : (step poco r message).heard = r.heard ++ [message] := by simp [step, read]
    unfold TracksPeers
    rw [id_step, services, heard]
    simp only [getElem?_removeZombies, getElem?_apply r.service read, live_append_singleton,
      Option.isSome_some, forall_const]
    -- The entries the message leaves are the same on both sides, up to their ages.
    constructor
    · intro all
      have spared : ∀ endpoint service,
          ((Announces poco r.service.id message service ∧ service.privateEndPoint = endpoint) ∨
            (r.service.services[endpoint]? = some service ∧
              ¬ Mentions poco r.service.id message endpoint)) →
          ¬ Ahead service.lastUpdate message.now := by
        intro endpoint service left ahead
        have young : ¬ Zombie service.lastUpdate message.now := by
          unfold Zombie
          have := ahead.1
          omega
        rw [tracks] at left
        -- A young entry is live, so it is there; but the loop removes what is ahead of it.
        have kept := (all endpoint service).mpr ⟨left, young⟩
        exact kept.2.2 ahead
      exact ⟨fun service announces => spared _ service (Or.inl ⟨announces, rfl⟩),
        fun endpoint service before unmentioned => spared endpoint service (Or.inr ⟨before, unmentioned⟩)⟩
    · rintro ⟨announced, before⟩ endpoint service
      rw [← tracks]
      constructor
      · rintro ⟨left, young, _⟩
        exact ⟨left, young⟩
      · rintro ⟨left, young⟩
        refine ⟨left, young, ?_⟩
        rcases left with ⟨announces, _⟩ | ⟨held, unmentioned⟩
        · exact announced service announces
        · exact before endpoint service held unmentioned

/-- What the service knows of one type are the live peers of that type, in whatever case it is asked. -/
theorem mem_getServicesOfType (tracks : TracksPeers poco r) (type : String) :
    service ∈ r.service.getServicesOfType type ↔
      service.type = toLower type ∧
        ∃ endpoint, Live poco r.service.id r.heard endpoint service := by
  -- The list is made from the entries of the map, and these are the live peers.
  simp only [MicroService.getServicesOfType, MicroService.getServices, List.mem_filter,
    List.mem_map, decide_eq_true_eq]
  constructor
  · rintro ⟨⟨⟨endpoint, _⟩, held, rfl⟩, typed⟩
    rw [Std.ExtTreeMap.mem_toList_iff_getElem?_eq_some] at held
    exact ⟨typed, endpoint, (tracks endpoint _).mp held⟩
  · rintro ⟨typed, endpoint, live⟩
    have held := (tracks endpoint service).mpr live
    rw [← Std.ExtTreeMap.mem_toList_iff_getElem?_eq_some] at held
    exact ⟨⟨(endpoint, service), held, rfl⟩, typed⟩

/-- A silent message is not well-formed, or asks for nothing. -/
theorem read_of_silent (silent : Silent poco ownId message) :
    MicroService.readBusMessage poco ownId message.updated message.payload = none ∨
      MicroService.readBusMessage poco ownId message.updated message.payload = some .nothing := by
  cases read : MicroService.readBusMessage poco ownId message.updated message.payload with
  | none => exact Or.inl rfl
  | some asked =>
    right
    by_contra something
    have apart : asked ≠ .nothing := fun same => something (by rw [same])
    -- A peer's message has both members, and another id.
    obtain ⟨object, id, event, peer, _⟩ := fromPeer_of_read read apart
    rcases silent object peer.parsed with missing | own
    · simp [peer.hasId, peer.hasEvent] at missing
    · exact peer.foreign (Option.some.inj (peer.idRead.symm.trans own))

/--
The registry tracks the live peers throughout a run exactly when no entry is ever ahead of a reading.

A message without an id or an event, or with the service's own id, does nothing but age the entries.
-/
theorem tracksPeers_iff_noneAhead (poco : Poco) (ownId : UInt64) (messages : List BusMessage) :
    ((∀ reached ∈ Transition.states (step poco) (start ownId) messages, TracksPeers poco reached) ↔
        Transition.Along (step poco) (NoneAhead poco) (start ownId) messages) ∧
      ∀ (r : Registry) (message : BusMessage), Silent poco r.service.id message →
        (step poco r message).service = r.service ∨
          (step poco r message).service = r.service.removeZombies message.now := by
  constructor
  · -- At the start no message has been heard, and there is no entry.
    have initial : TracksPeers poco (start ownId) := by
      intro endpoint service
      simp [start, Live]
    exact Transition.property_iff_along (TracksPeers poco) (fun _ => True) (fun _ _ _ _ _ _ => trivial)
      (fun _ _ _ tracks _ => tracksPeers_step_iff tracks) trivial initial
      (Transition.along_true _ _ _)
  · intro r message silent
    rcases read_of_silent silent with thrown | nothing
    · left
      simp [step, MicroService.busMessageReceived, thrown]
    · right
      simp [step, MicroService.busMessageReceived, nothing, MicroService.apply]

/-- A keep-alive of the security service, and a message of the service itself. -/
def busPoco : Poco :=
  .onDocuments [
    ("keep-alive", .object [("event", .string "keep-alive"), ("id", .int 7), ("type", .string "OWSEC"),
      ("publicEndPoint", .string "https://sec.example"), ("privateEndPoint", .string "https://owsec:17001"),
      ("version", .string "2.8"), ("key", .string "secret")]),
    ("own", .object [("event", .string "keep-alive"), ("id", .int 1)])]

/-- The two messages, with a clock that steps back by one second between them. -/
def steppedBack : List BusMessage :=
  [⟨"keep-alive", 1000, 1000⟩, ⟨"own", 999, 999⟩]

/-- A peer that has just announced itself is removed when the clock steps back by one second. -/
theorem peer_removed_by_clock :
    ¬ ∀ (poco : Poco) (ownId : UInt64) (messages : List BusMessage),
      ∀ reached ∈ Transition.states (step poco) (start ownId) messages, TracksPeers poco reached := by
  intro tracks
  have last := tracks busPoco 1 steppedBack _ (Transition.last_mem_states _ _)
  let peer : MicroServiceMeta :=
    ⟨7, "owsec", "https://owsec:17001", "https://sec.example", "secret", "2.8", 1000⟩
  -- The second message mentions no endpoint, and the entry is younger than both readings.
  have announced : Announces busPoco 1 ⟨"keep-alive", 1000, 1000⟩ peer := read_eq_alive.mp (by rfl)
  have own : MicroService.readBusMessage busPoco 1 999 "own" = some .nothing := by rfl
  have unmentioned : ¬ Mentions busPoco 1 ⟨"own", 999, 999⟩ peer.privateEndPoint := by
    rintro (⟨other, again, _⟩ | leaves)
    · have read := read_eq_alive.mpr again
      simp [own] at read
    · have read := read_eq_leaving.mpr leaves
      simp [own] at read
  have live : Live busPoco 1 steppedBack peer.privateEndPoint peer :=
    ⟨[], _, [⟨"own", 999, 999⟩], rfl, announced, rfl, by simpa using unmentioned, by
      simp [Zombie, peer]⟩
  have held := (last peer.privateEndPoint peer).mpr live
  exact absurd held (by decide +kernel)

end Registry

end Fms
