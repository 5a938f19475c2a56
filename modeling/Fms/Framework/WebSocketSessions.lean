import Fms.Framework.WebSocketServer

/-! The sessions of the web socket server: each goes by its own events, is cleared once, and serves whom it has to. -/

namespace Fms

namespace UI_WebSocketClientServer

/-! ### What a frame makes of its session -/

section Frames

variable {poco : Poco} {reading : Reading} {socket : Int} {types : JsonObject} {session : Session}

/-- A reading accepts the token of a user: a text frame names it, and the security service confirms it. -/
def Accepts (reading : Reading) (info : UserInfoAndPolicy) : Prop :=
  ∃ frame name token known, reading.received = some frame ∧ frame.size ≠ 0 ∧ frameOp frame.flags = opText ∧
    Utils.split ':' (cString frame.payload) = [name, token] ∧
    reading.isAuthorized (String.ofList token) known = (true, info)

/-- A token either opens its session, for the user the security service has named, or ends the connection. -/
theorem readToken_cases (text : List Char) :
    (∃ name token info, Utils.split ':' text = [name, token] ∧
      reading.isAuthorized (String.ofList token) session.userInfo = (true, info) ∧
      (readToken reading socket types session text).session =
        { session with userInfo := info, authenticated := true, userName := info.userinfo.email } ∧
      (readToken reading socket types session text).ends = !reading.sends) ∨
    (∃ info, (readToken reading socket types session text).session = { session with userInfo := info } ∧
      (readToken reading socket types session text).ends = true) := by
  -- By the parts of the text, and then by what the service says of the second one.
  unfold readToken
  split
  · rename_i name token parts
    cases answer : reading.isAuthorized (String.ofList token) session.userInfo with
    | mk accepted info =>
      cases accepted with
      | true => exact Or.inl ⟨name, token, info, parts, answer, rfl, rfl⟩
      | false => exact Or.inr ⟨info, rfl, rfl⟩
  · exact Or.inr ⟨session.userInfo, rfl, rfl⟩

/-- What a token is answered with is a document. -/
theorem actions_readToken {text : List Char} {action : Action}
    (done : action ∈ (readToken reading socket types session text).actions) :
    ∃ document, action = .sendDocument socket document := by
  unfold readToken at done
  split at done
  · rename_i name token parts
    cases answer : reading.isAuthorized (String.ofList token) session.userInfo with
    | mk accepted info =>
      cases accepted <;> simp [answer] at done <;> exact ⟨_, done⟩
  · exact ⟨_, by simpa using done⟩

/-- A command changes nothing of its session but what it filters. -/
theorem session_readCommand (text : List Char) :
    ∃ filter, (readCommand poco reading socket session text).session = { session with filter } := by
  -- Only a list of notifications to drop changes the session at all.
  unfold readCommand
  split
  · exact ⟨session.filter, rfl⟩
  · split
    · rename_i filters _
      cases read : readFilters poco filters with
      | mk ids complete => cases complete <;> exact ⟨_, rfl⟩
    · split
      · exact ⟨session.filter, rfl⟩
      · split <;> exact ⟨session.filter, rfl⟩

/-- What a command is answered with goes to its own socket, and is processed for the user of its own session. -/
theorem actions_readCommand {text : List Char} {action : Action}
    (done : action ∈ (readCommand poco reading socket session text).actions) :
    (∃ answer, action = .sendText socket answer) ∨
      ∃ document, action = .process socket document session.userInfo.userinfo := by
  unfold readCommand at done
  -- No object and a new filter answer nothing; a command goes to the processor, if there is one, and is answered.
  split at done
  · simp at done
  · split at done
    · rename_i filters _
      cases read : readFilters poco filters with
      | mk ids complete => cases complete <;> simp [read] at done
    · split at done
      · exact Or.inl ⟨_, by simpa using done⟩
      · split at done
        · exact Or.inr ⟨_, by simpa using done⟩
        · rcases List.mem_cons.mp done with called | answered
          · exact Or.inr ⟨_, called⟩
          · exact Or.inl ⟨_, by simpa using answered⟩

/-- The types of notifications are only written to the socket. -/
theorem readFrame_types (types other : JsonObject) :
    (readFrame poco reading socket types session).session = (readFrame poco reading socket other session).session ∧
      (readFrame poco reading socket types session).ends =
        (readFrame poco reading socket other session).ends := by
  -- The one branch that reads them is that of an accepted token.
  unfold readFrame readToken
  repeat' split
  all_goals exact ⟨rfl, rfl⟩

/--
What a frame may make of its session.

A session that is not open may stay so or be opened for a user who has been accepted, and an open one may filter
something else.
-/
inductive Evolves (reading : Reading) (before : Session) : Session → Prop where
  | waiting {after : Session} (was : before.authenticated = false) (is : after.authenticated = false) :
    Evolves reading before after
  | opened (info : UserInfoAndPolicy) (was : before.authenticated = false) (accepts : Accepts reading info) :
    Evolves reading before
      { before with userInfo := info, authenticated := true, userName := info.userinfo.email }
  | filtered (filter : List UInt64) : Evolves reading before { before with filter }

/-- A frame makes of its session what it may, and leaves its handlers alone. -/
theorem evolves_readFrame :
    Evolves reading session (readFrame poco reading socket types session).session ∧
      (readFrame poco reading socket types session).session.socketRegistered = session.socketRegistered := by
  -- Every branch but the two that read a text leaves the session as it is.
  have same : Evolves reading session session := .filtered session.filter
  unfold readFrame
  split
  · exact ⟨same, rfl⟩
  · rename_i frame received
    split
    · exact ⟨same, rfl⟩
    · split
      · exact ⟨same, rfl⟩
      · split
        · exact ⟨same, rfl⟩
        · split
          · rename_i filled _ _ text
            split
            · obtain ⟨filter, read⟩ := @session_readCommand poco reading socket session (cString frame.payload)
              rw [read]
              exact ⟨.filtered filter, rfl⟩
            · rename_i unknown
              have waiting : session.authenticated = false := by simpa using unknown
              obtain ⟨name, token, info, parts, accepted, read, _⟩ | ⟨info, read, _⟩ :=
                @readToken_cases reading socket types session (cString frame.payload)
              · rw [read]
                exact ⟨.opened info waiting
                  ⟨frame, name, token, session.userInfo, received, filled, text, parts, accepted⟩, rfl⟩
              · rw [read]
                exact ⟨.waiting waiting waiting, rfl⟩
          · exact ⟨same, rfl⟩

/-- Where a frame is answered as a command, or processed, its session has been open, and is the one that is served. -/
theorem actions_readFrame {action : Action}
    (done : action ∈ (readFrame poco reading socket types session).actions) :
    (action = .pong socket ∨ ∃ document, action = .sendDocument socket document) ∨
      session.authenticated = true ∧ ((∃ answer, action = .sendText socket answer) ∨
        ∃ document, action = .process socket document session.userInfo.userinfo) := by
  unfold readFrame at done
  -- The kinds of frame in the order of the source: only a text of an authenticated session is a command.
  split at done
  · simp at done
  · split at done
    · simp at done
    · split at done
      · exact Or.inl (Or.inl (by simpa using done))
      · split at done
        · simp at done
        · split at done
          · split at done
            · rename_i known
              exact Or.inr ⟨known, actions_readCommand done⟩
            · exact Or.inl (Or.inr (actions_readToken done))
          · simp at done

end Frames

/-! ### Clearing away the sessions that have ended -/

/-- An insertion changes the entry of its own socket only. -/
theorem getElem?_insert (clients : Std.ExtTreeMap Int Session) (socket : Int) (session : Session) (other : Int) :
    (clients.insert socket session)[other]? = if socket = other then some session else clients[other]? := by
  rw [Std.ExtTreeMap.getElem?_insert]
  simp only [Std.compare_eq_iff_eq]

/-- Erasing leaves the entries of the other sockets. -/
theorem getElem?_eraseAll (clients : Std.ExtTreeMap Int Session) (sockets : List Int) (other : Int) :
    (eraseAll clients sockets).1[other]? = if other ∈ sockets then none else clients[other]? := by
  -- The first socket is gone before the rest is erased.
  induction sockets generalizing clients with
  | nil => rfl
  | cons socket rest ih =>
    simp only [eraseAll, ih, Std.ExtTreeMap.getElem?_erase, Std.compare_eq_iff_eq, List.mem_cons]
    by_cases same : socket = other <;> by_cases later : other ∈ rest <;> simp [same, later, Ne.symm]

/-- No iterator is dangling where every one has its entry, and no two are the same. -/
theorem eraseAll_sound (clients : Std.ExtTreeMap Int Session) {sockets : List Int} (once : sockets.Nodup)
    (present : ∀ socket ∈ sockets, (clients[socket]?).isSome = true) : (eraseAll clients sockets).2 = false := by
  -- Erasing the first entry leaves those of the other iterators, which differ from it.
  induction sockets generalizing clients with
  | nil => rfl
  | cons socket rest ih =>
    obtain ⟨fresh, once⟩ := List.nodup_cons.mp once
    have first : clients.contains socket = true := by
      rw [Std.ExtTreeMap.contains_eq_isSome_getElem?]
      exact present socket List.mem_cons_self
    have later : ∀ other ∈ rest, ((clients.erase socket)[other]?).isSome = true := by
      intro other member
      have apart : socket ≠ other := fun same => fresh (same ▸ member)
      rw [Std.ExtTreeMap.getElem?_erase, if_neg (by simpa using apart)]
      exact present other (List.mem_cons_of_mem _ member)
    simp [eraseAll, first, ih _ once later]

/-- The books of the cleaner: the sockets to remove are those whose handlers are gone, each once. -/
structure Tidy (s : UI_WebSocketClientServer) : Prop where
  once : s.toBeRemoved.Nodup
  ended : ∀ socket, socket ∈ s.toBeRemoved ↔
    ∃ session, s.clients[socket]? = some session ∧ session.socketRegistered = false
  sound : s.dangling = false

variable {poco : Poco} {s : UI_WebSocketClientServer}

/-- Writing a session with handlers over one that has them, or for a new socket, keeps the books. -/
theorem Tidy.insert (tidy : Tidy s) {socket : Int} {session : Session} (registered : session.socketRegistered = true)
    (before : ∀ old : Session, s.clients[socket]? = some old → old.socketRegistered = true) (count : Nat) :
    Tidy { s with clients := s.clients.insert socket session, usersConnected := count } := by
  refine ⟨tidy.once, fun other => ?_, tidy.sound⟩
  simp only [getElem?_insert]
  by_cases same : socket = other
  · subst same
    -- The socket is not to be removed, before and after.
    have kept : socket ∉ s.toBeRemoved := by
      intro member
      obtain ⟨old, found, gone⟩ := (tidy.ended socket).mp member
      simp [before old found] at gone
    simp [kept, registered]
  · simpa [same] using tidy.ended other

/-- Ending a connection that has its handlers keeps the books. -/
theorem Tidy.endConnection (tidy : Tidy s) {socket : Int} {old : Session} (found : s.clients[socket]? = some old)
    (registered : old.socketRegistered = true) (session : Session) : Tidy (s.endConnection socket session) := by
  -- A registered connection is not waiting to be erased, so the list stays free of doubles.
  have fresh : socket ∉ s.toBeRemoved := by
    intro member
    obtain ⟨other, present, gone⟩ := (tidy.ended socket).mp member
    rw [found] at present
    cases present
    simp [registered] at gone
  refine ⟨?_, fun other => ?_, tidy.sound⟩
  · rw [UI_WebSocketClientServer.endConnection, List.nodup_append]
    exact ⟨tidy.once, List.nodup_singleton socket, fun other member another single =>
      fun same => fresh (List.mem_singleton.mp single ▸ same ▸ member)⟩
  · simp only [UI_WebSocketClientServer.endConnection, getElem?_insert, List.mem_append, List.mem_singleton]
    by_cases same : socket = other
    · subst same
      simp
    · simpa [same, Ne.symm same] using tidy.ended other

/-- After a pass of the cleaner, the sessions are those that had handlers, and no iterator was dangling. -/
theorem Tidy.clean (tidy : Tidy s) :
    s.clean.dangling = false ∧ s.clean.toBeRemoved = [] ∧ s.clean.usersConnected = s.clean.clients.size ∧
      ∀ (socket : Int) (session : Session), s.clean.clients[socket]? = some session ↔
        s.clients[socket]? = some session ∧ session.socketRegistered = true := by
  have present : ∀ socket ∈ s.toBeRemoved, (s.clients[socket]?).isSome = true := by
    intro socket member
    obtain ⟨session, found, _⟩ := (tidy.ended socket).mp member
    simp [found]
  refine ⟨by simp [UI_WebSocketClientServer.clean, tidy.sound, eraseAll_sound s.clients tidy.once present], rfl, rfl,
    fun socket session => ?_⟩
  simp only [UI_WebSocketClientServer.clean, getElem?_eraseAll]
  by_cases listed : socket ∈ s.toBeRemoved
  · -- What is listed has no handlers.
    obtain ⟨ended, found, gone⟩ := (tidy.ended socket).mp listed
    rw [if_pos listed, found]
    constructor
    · simp
    · rintro ⟨same, registered⟩
      cases same
      simp [gone] at registered
  · rw [if_neg listed]
    constructor
    · intro found
      cases registered : session.socketRegistered with
      | true => exact ⟨found, rfl⟩
      | false => exact absurd ((tidy.ended socket).mpr ⟨session, found, registered⟩) listed
    · exact And.left

/-- A permitted event keeps the books. -/
theorem Tidy.step (tidy : Tidy s) {event : Event} (permitted : Permitted s event) : Tidy (s.step poco event) := by
  -- Errors and shutdowns end the connection in one way.
  have closed : ∀ socket, (∀ session, s.clients[socket]? = some session → session.socketRegistered = true) →
      Tidy (s.onSocketClosed socket) := by
    intro socket live
    unfold onSocketClosed
    split
    · exact tidy
    · rename_i session found
      exact tidy.endConnection found (live session found) session
  cases event with
  -- A new connection is registered under a socket that no client holds.
  | newClient socket id userName =>
    exact tidy.insert rfl (fun session found => by simp [Permitted] at permitted; simp [permitted] at found) _
  | readable socket reading =>
    show Tidy (s.onSocketReadable poco socket reading).1
    unfold onSocketReadable
    split
    · exact tidy
    · rename_i session found
      -- The reading keeps `socketRegistered`; a connection that ends is put on the list once.
      have live := permitted session found
      have kept := (@evolves_readFrame poco reading socket s.notificationTypesJSON session).2
      simp only
      split
      · exact tidy.endConnection found live _
      · exact tidy.insert (kept.trans live) permitted s.usersConnected
  | error socket => exact closed socket permitted
  | shutdown socket => exact closed socket permitted
  -- The cleaner leaves the list empty and only registered connections behind.
  | cleaner =>
    obtain ⟨sound, empty, _, left⟩ := tidy.clean
    refine ⟨by simp [UI_WebSocketClientServer.step, handle, empty], fun socket => ?_, sound⟩
    simp only [UI_WebSocketClientServer.step, handle, empty, left]
    simp
  | sendToUser userName id payload sendFrame => exact tidy
  | sendToAll id payload => exact tidy
  | registerNotifications notifications => exact ⟨tidy.once, tidy.ended, tidy.sound⟩

/-- The books are in order along every permitted run. -/
theorem tidy_run {run : List Event} (permitted : Transition.Along (step poco) Permitted {} run) :
    Tidy (run.foldl (step poco) {}) :=
  Transition.invariant_along Tidy (fun _ _ tidy permitted => tidy.step permitted)
    ⟨List.nodup_nil, by simp, rfl⟩ permitted _ (Transition.last_mem_states _ run)

/-! ### A session goes by its own events -/

/-- An event is about the session of a socket. -/
def Concerns (socket : Int) : Event → Prop
  | .newClient other _ _ | .readable other _ | .error other | .shutdown other => other = socket
  | .cleaner => True
  | .sendToUser .. | .sendToAll .. | .registerNotifications _ => False

/-- Whether an event is about a session can be decided. -/
instance decidableConcerns (socket : Int) : DecidablePred (Concerns socket) := fun event => by
  cases event <;> unfold Concerns <;> infer_instance

/-- What an event makes of a session, read off nothing but the session. -/
@[grind =]
def sessionStep (poco : Poco) (socket : Int) (session? : Option Session) : Event → Option Session
  | .newClient _ id userName =>
    some { id, userName, authenticated := false, filter := [], socketRegistered := true }
  | .readable _ reading => session?.map fun session =>
    let handled := readFrame poco reading socket [] session
    if handled.ends then { handled.session with socketRegistered := false } else handled.session
  | .error _ | .shutdown _ => session?.map fun session => { session with socketRegistered := false }
  | .cleaner => session?.filter fun session => session.socketRegistered
  | _ => session?

/-- The session of a socket after the events of a run that concern it. -/
def sessionAfter (poco : Poco) (run : List Event) (socket : Int) : Option Session :=
  (run.filter fun event => decide (Concerns socket event)).foldl (sessionStep poco socket) none

/-- The end of a connection is seen at its own socket. -/
theorem getElem?_onSocketClosed (s : UI_WebSocketClientServer) (socket other : Int) :
    (s.onSocketClosed socket).clients[other]? =
      if socket = other then s.clients[other]?.map fun session => { session with socketRegistered := false }
      else s.clients[other]? := by
  -- An unknown socket leaves all as it is.
  unfold onSocketClosed
  split
  · rename_i absent
    by_cases same : socket = other
    · subst same
      simp [absent]
    · simp [same]
  · rename_i session found
    by_cases same : socket = other
    · subst same
      simp [UI_WebSocketClientServer.endConnection, found]
    · simp [UI_WebSocketClientServer.endConnection, getElem?_insert, same]

/-- A frame is seen at its own socket. -/
theorem getElem?_onSocketReadable (s : UI_WebSocketClientServer) (socket : Int) (reading : Reading) (other : Int) :
    (s.onSocketReadable poco socket reading).1.clients[other]? =
      if socket = other then sessionStep poco socket (s.clients[other]?) (.readable socket reading)
      else s.clients[other]? := by
  unfold onSocketReadable
  split
  · rename_i absent
    by_cases same : socket = other
    · subst same
      simp [absent, sessionStep]
    · simp [same]
  · rename_i session found
    -- The types of notifications do not matter to the session.
    obtain ⟨read, ends⟩ := @readFrame_types poco reading socket session s.notificationTypesJSON []
    have after : sessionStep poco socket (some session) (.readable socket reading) =
        some (if (readFrame poco reading socket s.notificationTypesJSON session).ends = true then
          { (readFrame poco reading socket s.notificationTypesJSON session).session with socketRegistered := false }
          else (readFrame poco reading socket s.notificationTypesJSON session).session) := by
      rw [read, ends]
      rfl
    by_cases ended : (readFrame poco reading socket s.notificationTypesJSON session).ends = true
    · rw [if_pos ended] at after
      simp only [if_pos ended, UI_WebSocketClientServer.endConnection, getElem?_insert]
      by_cases same : socket = other
      · rw [if_pos same, if_pos same, ← same, found, after]
      · rw [if_neg same, if_neg same]
    · rw [if_neg ended] at after
      simp only [if_neg ended, getElem?_insert]
      by_cases same : socket = other
      · rw [if_pos same, if_pos same, ← same, found, after]
      · rw [if_neg same, if_neg same]

/-- A pass of the cleaner keeps of every session what has its handlers. -/
theorem getElem?_clean (tidy : Tidy s) (socket : Int) :
    s.clean.clients[socket]? = (s.clients[socket]?).filter fun session => session.socketRegistered := by
  obtain ⟨_, _, _, left⟩ := tidy.clean
  refine Option.ext fun session => ?_
  rw [left, Option.filter_eq_some_iff]

/-- An event is seen at the sessions it concerns, and there as it is by a session alone. -/
theorem getElem?_step (tidy : Tidy s) (event : Event) (socket : Int) :
    (s.step poco event).clients[socket]? =
      if Concerns socket event then sessionStep poco socket (s.clients[socket]?) event
      else s.clients[socket]? := by
  -- An event of another socket leaves the entry alone; the cleaner concerns every socket.
  cases event with
  | newClient other id userName => exact getElem?_insert s.clients other _ socket
  | readable other reading =>
    refine (getElem?_onSocketReadable s other reading socket).trans ?_
    by_cases same : other = socket
    · subst same
      simp [Concerns]
    · simp [Concerns, same]
  | error other => exact getElem?_onSocketClosed s other socket
  | shutdown other => exact getElem?_onSocketClosed s other socket
  | cleaner =>
    have concerned : Concerns socket .cleaner := trivial
    rw [if_pos concerned]
    exact getElem?_clean tidy socket
  | sendToUser userName id payload sendFrame => simp [UI_WebSocketClientServer.step, handle, Concerns]
  | sendToAll id payload => simp [UI_WebSocketClientServer.step, handle, Concerns]
  | registerNotifications notifications =>
    simp [UI_WebSocketClientServer.step, handle, registerNotifications, Concerns]

/-- After a permitted run every session is what its own events have made of it. -/
theorem getElem?_run {run : List Event} (permitted : Transition.Along (step poco) Permitted {} run) (socket : Int) :
    (run.foldl (step poco) {}).clients[socket]? = sessionAfter poco run socket := by
  -- The books of the cleaner are in order before every step.
  have tidy : Transition.Along (step poco) (fun s _ => Tidy s) {} run :=
    Transition.along_of_states (Transition.invariant_along Tidy (fun _ _ tidy permitted => tidy.step permitted)
      ⟨List.nodup_nil, by simp, rfl⟩ permitted)
  have empty : ({} : UI_WebSocketClientServer).clients[socket]? = none := Std.ExtTreeMap.getElem?_empty
  refine (Transition.foldl_view (Concerns socket) (fun s : UI_WebSocketClientServer => s.clients[socket]?)
    (sessionStep poco socket) ?_ ?_ tidy).trans (by rw [empty]; rfl)
  · intro s event tidy concerned
    rw [getElem?_step tidy, if_pos concerned]
  · intro s event tidy other
    rw [getElem?_step tidy, if_neg other]

/-- A text frame with a token, which the security service knows. -/
def tokenReading : Reading where
  received := some ⟨9, 0x81, "token:abc".toList⟩
  isAuthorized token info := (token = "abc", { info with userinfo := { info.userinfo with email := "a@b.c" } })
  processor := none
  sends := true

/-- Two clients, of which the first one shows its token, and the second one fails. -/
def twoClients : List Event :=
  [.newClient 4 "first" "admin", .newClient 7 "second" "admin", .readable 4 tokenReading, .error 7]

/-- The run of the two clients is one the system allows. -/
theorem permitted_twoClients (poco : Poco) : Transition.Along (step poco) Permitted {} twoClients := by
  -- Each event finds the session that the events before it have left.
  have one : Transition.Along (step poco) Permitted {} (twoClients.take 1) := ⟨by simp [Permitted], trivial⟩
  have two : Transition.Along (step poco) Permitted {} (twoClients.take 1 ++ [.newClient 7 "second" "admin"]) :=
    Transition.along_append.mpr ⟨one, getElem?_run one 7, trivial⟩
  have three : Transition.Along (step poco) Permitted {} (twoClients.take 2 ++ [.readable 4 tokenReading]) := by
    refine Transition.along_append.mpr ⟨two, fun session found => ?_, trivial⟩
    have known := (getElem?_run two 4).symm.trans found
    cases known
    rfl
  show Transition.Along (step poco) Permitted {} (twoClients.take 3 ++ [.error 7])
  refine Transition.along_append.mpr ⟨three, fun session found => ?_, trivial⟩
  have known := (getElem?_run three 7).symm.trans found
  cases known
  rfl

/--
The cleaner is exact after every run.

It erases every session whose connection has ended and no other, follows no iterator to an entry that is gone,
leaves none to follow, and counts those who are left.
-/
theorem cleaner_exact (poco : Poco) (run : List Event) (permitted : Transition.Along (step poco) Permitted {} run) :
    (run.foldl (step poco) {}).clean.dangling = false ∧ (run.foldl (step poco) {}).clean.toBeRemoved = [] ∧
      (run.foldl (step poco) {}).clean.usersConnected = (run.foldl (step poco) {}).clean.clients.size ∧
      ∀ (socket : Int) (session : Session), (run.foldl (step poco) {}).clean.clients[socket]? = some session ↔
        (run.foldl (step poco) {}).clients[socket]? = some session ∧ session.socketRegistered = true := by
  exact (tidy_run permitted).clean

/-- Of the two clients, the cleaner erases the one whose connection has ended, which it finds. -/
theorem cleaner_exact_two_clients :
    (twoClients.foldl (step (.onDocuments [])) {}).clean.dangling = false ∧
      ((twoClients.foldl (step (.onDocuments [])) {}).clients[(7 : Int)]?).isSome = true ∧
      (twoClients.foldl (step (.onDocuments [])) {}).clean.clients[(7 : Int)]? = none ∧
      ((twoClients.foldl (step (.onDocuments [])) {}).clean.clients[(4 : Int)]?).isSome = true := by
  obtain ⟨sound, -, -, left⟩ := cleaner_exact (.onDocuments []) twoClients (permitted_twoClients _)
  have first := getElem?_run (permitted_twoClients (.onDocuments [])) 4
  have second := getElem?_run (permitted_twoClients (.onDocuments [])) 7
  refine ⟨sound, by rw [second]; rfl, ?_, ?_⟩
  · -- The error has taken the handlers of the second socket.
    refine Option.eq_none_iff_forall_ne_some.mpr fun session found => ?_
    obtain ⟨before, registered⟩ := (left 7 session).mp found
    cases second.symm.trans before
    exact absurd registered Bool.false_ne_true
  · obtain ⟨session, before⟩ : ∃ session, sessionAfter (.onDocuments []) twoClients 4 = some session ∧
        session.socketRegistered = true := ⟨_, rfl, rfl⟩
    exact Option.isSome_iff_exists.mpr ⟨session, (left 4 session).mpr ⟨first.trans before.1, before.2⟩⟩

/-- A notification to all goes to the authenticated sessions that do not filter it. -/
theorem mem_notified {clients : Std.ExtTreeMap Int Session} {id : UInt64} {socket : Int} :
    socket ∈ sendToAll (clientList clients) id ↔
      ∃ session : Session, clients[socket]? = some session ∧ session.authenticated = true ∧
        id ∉ session.filter := by
  unfold sendToAll clientList
  simp only [List.mem_map, List.mem_filter, Prod.exists, exists_and_right, exists_eq_right]
  -- The list of clients has an entry for each socket, with its session.
  constructor
  · rintro ⟨client, ⟨key, session, member, same⟩, reachable⟩
    cases same
    exact ⟨session, Std.ExtTreeMap.mem_toList_iff_getElem?_eq_some.mp member,
      by simpa [isFiltered, and_comm] using reachable⟩
  · rintro ⟨session, found, known, wanted⟩
    exact ⟨session.toUI_WebSocketClientInfo,
      ⟨socket, session, Std.ExtTreeMap.mem_toList_iff_getElem?_eq_some.mpr found, rfl⟩,
      by simp [isFiltered, known, wanted]⟩

/--
Connections do not interfere.

After every run the session of a socket is what the events of that connection alone have made of it, and so is
whether it is given a notification: it is when its own events have authenticated it and do not filter the kind.
-/
theorem sessions_apart (poco : Poco) (run : List Event)
    (permitted : Transition.Along (step poco) Permitted {} run) (socket : Int) :
    (run.foldl (step poco) {}).clients[socket]? = sessionAfter poco run socket ∧
      ∀ id payload, Action.notify socket id payload ∈
          ((run.foldl (step poco) {}).handle poco (.sendToAll id payload)).2 ↔
        ∃ session : Session, sessionAfter poco run socket = some session ∧ session.authenticated = true ∧
          id ∉ session.filter := by
  refine ⟨getElem?_run permitted socket, fun id payload => ?_⟩
  rw [← getElem?_run permitted socket, ← mem_notified]
  simp [handle]

/-- Of the two clients, the one that has shown its token is notified. -/
theorem sessions_apart_two_clients :
    Action.notify 4 1 [] ∈
      ((twoClients.foldl (step (.onDocuments [])) {}).handle (.onDocuments []) (.sendToAll 1 [])).2 :=
  ((sessions_apart (.onDocuments []) twoClients (permitted_twoClients _) 4).2 1 []).mpr
    ⟨_, rfl, rfl, List.not_mem_nil⟩

/-! ### Whom the server serves -/

/-- A user's token has been accepted on the connection that a socket has had since. -/
def Opened (run : List Event) (socket : Int) (info : UserInfoAndPolicy) : Prop :=
  ∃ front reading back, run = front ++ .readable socket reading :: back ∧ Accepts reading info ∧
    ∀ id userName, Event.newClient socket id userName ∉ back

/-- A connection stays open for its user while its socket is not given to another one. -/
theorem Opened.snoc {run : List Event} {socket : Int} {info : UserInfoAndPolicy} (opened : Opened run socket info)
    {event : Event} (kept : ∀ id userName, event ≠ .newClient socket id userName) :
    Opened (run ++ [event]) socket info := by
  obtain ⟨front, reading, back, rfl, accepts, same⟩ := opened
  refine ⟨front, reading, back ++ [event], by simp, accepts, fun id userName member => ?_⟩
  rcases List.mem_append.mp member with earlier | last
  · exact same id userName earlier
  · exact kept id userName (List.mem_singleton.mp last).symm

/-- Every authenticated session is that of a user whose token its connection has shown, and goes by the user's name. -/
def Authentic (run : List Event) (s : UI_WebSocketClientServer) : Prop :=
  ∀ (socket : Int) (session : Session), s.clients[socket]? = some session → session.authenticated = true →
    Opened run socket session.userInfo ∧ session.userName = session.userInfo.userinfo.email

/-- A frame leaves every session authentic. -/
theorem Authentic.readable {run : List Event} (authentic : Authentic run s) (socket : Int) (reading : Reading) :
    Authentic (run ++ [.readable socket reading]) (s.step poco (.readable socket reading)) := by
  intro other session found known
  have kept : ∀ id userName, Event.readable socket reading ≠ .newClient other id userName := by simp
  have seen : (s.step poco (.readable socket reading)).clients[other]? = _ :=
    getElem?_onSocketReadable s socket reading other
  rw [seen] at found
  by_cases same : socket = other
  · subst same
    rw [if_pos rfl, sessionStep, Option.map_eq_some_iff] at found
    obtain ⟨before, present, after⟩ := found
    -- Ending the connection leaves the user of the session.
    have handled : ∃ read, Evolves reading before read ∧ session.authenticated = read.authenticated ∧
        session.userInfo = read.userInfo ∧ session.userName = read.userName := by
      refine ⟨_, (@evolves_readFrame poco _ socket [] _).1, ?_⟩
      rw [← after]
      dsimp only
      split <;> exact ⟨rfl, rfl, rfl⟩
    obtain ⟨read, evolves, flag, info, name⟩ := handled
    rw [flag] at known
    rw [info, name]
    cases evolves with
    | waiting was is => simp [is] at known
    | opened user was accepts =>
      exact ⟨⟨run, reading, [], rfl, accepts, by simp⟩, rfl⟩
    | filtered filter =>
      obtain ⟨opened, named⟩ := authentic socket before present known
      exact ⟨opened.snoc kept, named⟩
  · rw [if_neg same] at found
    obtain ⟨opened, named⟩ := authentic other session found known
    exact ⟨opened.snoc kept, named⟩

/-- The end of a connection leaves every session authentic. -/
theorem Authentic.closed {run : List Event} (authentic : Authentic run s) (socket : Int) {event : Event}
    (kept : ∀ other id userName, event ≠ .newClient other id userName) :
    Authentic (run ++ [event]) (s.onSocketClosed socket) := by
  intro other session found known
  rw [getElem?_onSocketClosed] at found
  split at found
  · obtain ⟨before, present, rfl⟩ := Option.map_eq_some_iff.mp found
    obtain ⟨opened, named⟩ := authentic other before present known
    exact ⟨opened.snoc (kept other), named⟩
  · obtain ⟨opened, named⟩ := authentic other session found known
    exact ⟨opened.snoc (kept other), named⟩

/-- Every event leaves every session authentic. -/
theorem Authentic.step {run : List Event} (authentic : Authentic run s) (event : Event) :
    Authentic (run ++ [event]) (s.step poco event) := by
  -- An event that neither makes nor changes an entry only adds to what has happened.
  have quiet : (∀ socket id userName, event ≠ .newClient socket id userName) →
      (∀ (socket : Int) session, (s.step poco event).clients[socket]? = some session →
        s.clients[socket]? = some session) → Authentic (run ++ [event]) (s.step poco event) := by
    intro kept left socket session found known
    obtain ⟨opened, named⟩ := authentic socket session (left socket session found) known
    exact ⟨opened.snoc (kept socket), named⟩
  cases event with
  | newClient socket id userName =>
    intro other session found known
    have seen : (s.step poco (.newClient socket id userName)).clients[other]? = _ :=
      getElem?_insert s.clients socket _ other
    rw [seen] at found
    split at found
    · -- The new session has shown nothing.
      cases found
      simp at known
    · rename_i apart
      obtain ⟨opened, named⟩ := authentic other session found known
      exact ⟨opened.snoc (by simp [apart]), named⟩
  | readable socket reading => exact authentic.readable socket reading
  | error socket => exact authentic.closed socket (by simp)
  | shutdown socket => exact authentic.closed socket (by simp)
  | cleaner =>
    refine quiet (by simp) fun socket session found => ?_
    have seen : (s.step poco .cleaner).clients[socket]? = _ := getElem?_eraseAll s.clients s.toBeRemoved socket
    rw [seen] at found
    split at found
    · cases found
    · exact found
  | sendToUser userName id payload sendFrame => exact quiet (by simp) fun socket session found => found
  | sendToAll id payload => exact quiet (by simp) fun socket session found => found
  | registerNotifications notifications => exact quiet (by simp) fun socket session found => found

/-- A notification to a user is given to an authenticated session under the user's name, if to any. -/
theorem sendToSessions_socket {sendFrame : Int → List UInt8 → Int → Option Int} {userName : String} {id : UInt64}
    {payload : List UInt8} {sessions : List (Int × UI_WebSocketClientInfo)} {socket : Int}
    (given : (sendToSessions sendFrame userName id payload sessions).2 = some socket) :
    ∃ client, (socket, client) ∈ sessions ∧ client.userName = userName ∧ client.authenticated = true := by
  -- The sessions of other users are passed over.
  induction sessions with
  | nil => simp [sendToSessions] at given
  | cons session rest ih =>
    obtain ⟨place, client⟩ := session
    by_cases own : client.userName = userName
    · cases known : client.authenticated with
      | false => simp [sendToSessions, own, known] at given
      | true =>
        refine ⟨client, ?_, own, known⟩
        simp only [sendToSessions, own, if_true, known, Bool.and_true] at given
        split at given
        · split at given <;> simp_all
        · simp at given
    · simp only [sendToSessions, own, if_false] at given
      obtain ⟨found, member, same, known⟩ := ih given
      exact ⟨found, List.mem_cons_of_mem _ member, same, known⟩

/--
What an action has to rest on, given what has happened before and the event it is done for.

Commands are answered, documents processed and notifications given on open connections only; a document is processed
for the user the connection has been opened for, and a notification to a user is given to a connection of that user.
-/
def Entitled (run : List Event) (event : Event) : Action → Prop
  | .pong _ | .sendDocument _ _ => True
  | .sendText socket _ => ∃ info, Opened run socket info
  | .process socket _ user => ∃ info, Opened run socket info ∧ info.userinfo = user
  | .notify socket _ _ => ∃ info, Opened run socket info ∧
    ∀ userName id payload sendFrame, event = .sendToUser userName id payload sendFrame →
      info.userinfo.email = userName

/-- The server does nothing for a connection that has not shown a token the security service has accepted. -/
theorem actions_entitled (poco : Poco) (run : List Event) (event : Event) (action : Action)
    (done : action ∈ ((run.foldl (step poco) {}).handle poco event).2) : Entitled run event action := by
  have first : Authentic [] {} := fun socket session found => by simp at found
  -- Every authenticated session of the reached state was opened by an accepted token (`Authentic`).
  have authentic : Authentic run (run.foldl (step poco) {}) :=
    Transition.foldl_related (step poco) Authentic first (fun _ _ event authentic => authentic.step event) run
  generalize run.foldl (step poco) {} = s at authentic done
  cases event with
  | readable socket reading =>
    -- What a frame causes is entitled by the session the frame was read in.
    rw [handle, onSocketReadable] at done
    split at done
    · simp at done
    · rename_i session found
      have handled : action ∈ (readFrame poco reading socket s.notificationTypesJSON session).actions := by
        simp only at done
        split at done <;> exact done
      rcases actions_readFrame handled with (rfl | ⟨document, rfl⟩) | ⟨known, ⟨answer, rfl⟩ | ⟨document, rfl⟩⟩
      · trivial
      · trivial
      · exact ⟨session.userInfo, (authentic socket session found known).1⟩
      · exact ⟨session.userInfo, (authentic socket session found known).1, rfl⟩
  | sendToUser userName id payload sendFrame =>
    simp only [handle, List.mem_map, Option.mem_toList] at done
    -- The receiver is a session of the named user, which a token of that user opened.
    obtain ⟨socket, given, rfl⟩ := done
    obtain ⟨client, member, own, known⟩ := sendToSessions_socket given
    obtain ⟨entry, present, same⟩ := List.mem_map.mp member
    obtain ⟨key, session⟩ := entry
    cases same
    have found := Std.ExtTreeMap.mem_toList_iff_getElem?_eq_some.mp present
    obtain ⟨opened, named⟩ := authentic key session found known
    refine ⟨session.userInfo, opened, fun other _ _ _ same => ?_⟩
    cases same
    rw [← named]
    exact own
  | sendToAll id payload =>
    simp only [handle, List.mem_map] at done
    obtain ⟨socket, member, rfl⟩ := done
    obtain ⟨session, found, known, _⟩ := mem_notified.mp member
    exact ⟨session.userInfo, (authentic socket session found known).1, fun _ _ _ _ same => by cases same⟩
  | newClient socket id userName => simp [handle] at done
  | error socket => simp [handle] at done
  | shutdown socket => simp [handle] at done
  | cleaner => simp [handle] at done
  | registerNotifications notifications => simp [handle] at done

/-- The first of the two clients, which is notified, has shown the token of a user. -/
theorem actions_entitled_two_clients : Entitled twoClients (.sendToAll 1 []) (.notify 4 1 []) := by
  refine actions_entitled (.onDocuments []) twoClients (.sendToAll 1 []) (.notify 4 1 []) ?_
  have session := getElem?_run (permitted_twoClients (.onDocuments [])) 4
  have notified : 4 ∈ sendToAll (clientList (twoClients.foldl (step (.onDocuments [])) {}).clients) 1 :=
    mem_notified.mpr ⟨_, session, rfl, List.not_mem_nil⟩
  exact List.mem_map.mpr ⟨4, notified, rfl⟩

end UI_WebSocketClientServer

end Fms
