import Mathlib.Data.List.Basic

/-! Notifications of the web socket server, which are sent to the open sessions of the user interface. -/

namespace Fms

namespace UI_WebSocketClientServer

/-- `UI_WebSocketClientInfo`, as far as a notification reads it. -/
structure UI_WebSocketClientInfo where
  userName : String
  authenticated : Bool
  filter : List UInt64
  deriving DecidableEq, Repr

/-- `ClientList`: the sessions in the order of their sockets. -/
structure ClientList where
  /-- Every session with its socket. -/
  sessions : List (Int × UI_WebSocketClientInfo)
  /-- A map goes through its keys in their order, and holds each of them once. -/
  ordered : sessions.Pairwise fun a b => a.1 < b.1

/-- A size as an `int` holds it. -/
def toInt (size : Nat) : Int := (size : Int).bmod 4294967296

/-- `IsFiltered`. -/
def isFiltered (id : UInt64) (client : UI_WebSocketClientInfo) : Bool := client.filter.contains id

section Sending

-- `WebSocket::sendFrame` of a session's socket: how much it has sent, or none where it throws.
variable (sendFrame : Int → List UInt8 → Int → Option Int)

/-- The loop of `SendToUser`, and the socket that has been given the frame. -/
def sendToSessions (userName : String) (id : UInt64) (payload : List UInt8) :
    List (Int × UI_WebSocketClientInfo) → Bool × Option Int
  | [] => (false, none)
  | (socket, client) :: rest =>
    if client.userName = userName then
      if !isFiltered id client && client.authenticated then
        match sendFrame socket payload (toInt payload.length) with
        | some sent => (sent == toInt payload.length, some socket)
        | none => (false, some socket)
      else (false, none)
    else sendToSessions userName id payload rest

/-- `SendToUser`. -/
def sendToUser (clients : ClientList) (userName : String) (id : UInt64) (payload : List UInt8) :
    Bool × Option Int :=
  sendToSessions sendFrame userName id payload clients.sessions

/-- `SendToAll`: the sockets that have been given the frame. -/
def sendToAll (clients : ClientList) (id : UInt64) : List Int :=
  (clients.sessions.filter fun session => !isFiltered id session.2 && session.2.authenticated).map Prod.fst

/-- An authenticated session of a user that does not filter a notification, and accepts its frame. -/
def Reachable (userName : String) (id : UInt64) (payload : List UInt8) (session : Int × UI_WebSocketClientInfo) :
    Prop :=
  session.2.userName = userName ∧ session.2.authenticated = true ∧ isFiltered id session.2 = false ∧
    sendFrame session.1 payload (toInt payload.length) = some (toInt payload.length)

/-- A notification reaches a user who can be reached: a session accepts the frame, and the call returns true. -/
def ReachesUser (clients : ClientList) (userName : String) (id : UInt64) (payload : List UInt8) : Prop :=
  (∃ session ∈ clients.sessions, Reachable sendFrame userName id payload session) →
    ∃ session ∈ clients.sessions, Reachable sendFrame userName id payload session ∧
      sendToUser sendFrame clients userName id payload = (true, some session.1)

/-- The first session of a user, in the order of the sockets. -/
def firstSession (clients : ClientList) (userName : String) : Option (Int × UI_WebSocketClientInfo) :=
  clients.sessions.find? fun session => session.2.userName = userName

variable {sendFrame} {userName : String} {id : UInt64} {payload : List UInt8}

/-- The loop settles with the first session of the user. -/
theorem sendToSessions_eq (sessions : List (Int × UI_WebSocketClientInfo)) :
    sendToSessions sendFrame userName id payload sessions =
      match sessions.find? fun session => session.2.userName = userName with
      | none => (false, none)
      | some session => sendToSessions sendFrame userName id payload [session] := by
  -- The sessions of other users are passed over.
  induction sessions with
  | nil => rfl
  | cons session rest ih =>
    by_cases same : session.2.userName = userName
    · simp [sendToSessions, same]
    · simpa [sendToSessions, same] using ih

/-- A single session settles the call with true exactly where it can be reached. -/
theorem sendToSessions_singleton (session : Int × UI_WebSocketClientInfo) (own : session.2.userName = userName)
    (socket : Int) :
    sendToSessions sendFrame userName id payload [session] = (true, some socket) ↔
      Reachable sendFrame userName id payload session ∧ session.1 = socket := by
  -- By what the session filters, whether it is authenticated, and what the socket says.
  obtain ⟨place, client⟩ := session
  unfold Reachable
  cases filtered : isFiltered id client <;> cases known : client.authenticated <;>
    cases sent : sendFrame place payload (toInt payload.length) <;> simp_all [sendToSessions]

/-- A notification reaches its user exactly where the first session can be reached, if any can. -/
theorem reachesUser_iff (sendFrame : Int → List UInt8 → Int → Option Int) (clients : ClientList)
    (userName : String) (id : UInt64) (payload : List UInt8) :
    ReachesUser sendFrame clients userName id payload ↔
      ((∃ session ∈ clients.sessions, Reachable sendFrame userName id payload session) →
        ∃ first, firstSession clients userName = some first ∧ Reachable sendFrame userName id payload first) := by
  -- The call is settled by the first session.
  refine imp_congr_right fun _ => ?_
  unfold sendToUser firstSession
  rw [sendToSessions_eq]
  constructor
  · intro reached
    obtain ⟨session, _, _, outcome⟩ := reached
    cases found : clients.sessions.find? fun session => session.2.userName = userName with
    | none => simp [found] at outcome
    | some first =>
      have own : first.2.userName = userName := by simpa using List.find?_some found
      rw [found] at outcome
      exact ⟨first, rfl, ((sendToSessions_singleton first own session.1).mp outcome).1⟩
  · intro first
    obtain ⟨first, found, reachable⟩ := first
    have own : first.2.userName = userName := reachable.1
    refine ⟨first, List.mem_of_find?_eq_some found, reachable, ?_⟩
    rw [found]
    exact (sendToSessions_singleton first own first.1).mpr ⟨reachable, rfl⟩

/-- Two sessions of one user, of which only the second one has been authenticated. -/
def twoSessions : ClientList where
  sessions := [(4, { userName := "admin", authenticated := false, filter := [] }),
    (7, { userName := "admin", authenticated := true, filter := [] })]
  ordered := by decide

/-- A session that has not been authenticated keeps the notifications from a second one of the same user. -/
theorem second_session_not_reached :
    ¬ ReachesUser (fun _ _ size => some size) twoSessions "admin" 1 [0x7b, 0x7d] := by
  -- The first session settles the call, although the second one would accept the frame.
  intro reaches
  have second : Reachable (fun _ _ size => some size) "admin" 1 [0x7b, 0x7d]
      (7, { userName := "admin", authenticated := true, filter := [] }) := ⟨rfl, rfl, by decide, rfl⟩
  obtain ⟨session, _, _, outcome⟩ := reaches ⟨_, by simp [twoSessions], second⟩
  have refused : sendToUser (fun _ _ size => some size) twoSessions "admin" 1 [0x7b, 0x7d] = (false, none) := by
    decide
  cases refused.symm.trans outcome

/-- A notification to all sessions is given to every session that can be reached, whatever the other ones are. -/
theorem mem_sendToAll {clients : ClientList} {session : Int × UI_WebSocketClientInfo}
    (member : session ∈ clients.sessions) (reachable : Reachable sendFrame userName id payload session) :
    session.1 ∈ sendToAll clients id := by
  obtain ⟨_, known, wanted, _⟩ := reachable
  exact List.mem_map_of_mem (List.mem_filter.mpr ⟨member, by simp [known, wanted]⟩)

end Sending

end UI_WebSocketClientServer

end Fms
