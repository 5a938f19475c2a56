import Fms.Framework.Notifications
import Fms.Relation.Run
import Fms.Security.Objects
import Std.Data.ExtTreeMap.Lemmas

/-! The web socket server of the user interface: its sessions, their frames and the pass that clears them away. -/

namespace Fms

namespace Utils

/-- `Split`: the parts between separators, without an empty last one. -/
def split (delimiter : Char) (text : List Char) : List (List Char) :=
  let parts := text.splitOn delimiter
  if parts.getLast? = some [] then parts.dropLast else parts

end Utils

namespace UI_WebSocketClientServer

/-- `UI_WebSocketClientInfo`, with what a notification does not read. -/
structure Session extends UI_WebSocketClientInfo where
  id : String
  /-- `SocketRegistered_`: whether the reactor has handlers for the socket. -/
  socketRegistered : Bool
  userInfo : UserInfoAndPolicy := {}
  deriving DecidableEq, Repr

/-- `NotificationEntry`. -/
structure NotificationEntry where
  id : UInt64
  helper : String
  deriving DecidableEq, Repr

/-- A frame, as `receiveFrame` returns it. -/
structure Frame where
  /-- The size it returns. -/
  size : Int
  flags : UInt32
  payload : List Char

/-- What a handler meets outside the server while it reads from a socket. -/
structure Reading where
  /-- `receiveFrame`; absent where it throws. -/
  received : Option Frame
  /-- `AuthClient::IsAuthorized` for a token, with the record it writes to. -/
  isAuthorized : String → UserInfoAndPolicy → Bool × UserInfoAndPolicy
  /-- `Processor_`, where one has been set: the answer and whether to close; absent where it throws. -/
  processor : Option (JsonObject → UserInfo → Option (String × Bool))
  /-- Whether `sendFrame` returns. -/
  sends : Bool

/-- What the server does to its sockets and with its processor. -/
inductive Action where
  | pong (socket : Int)
  | sendDocument (socket : Int) (document : JsonObject)
  | sendText (socket : Int) (text : String)
  | process (socket : Int) (document : JsonObject) (user : UserInfo)
  | notify (socket : Int) (id : UInt64) (payload : List UInt8)

/-- The socket an action is about. -/
def Action.socket : Action → Int
  | pong socket | sendDocument socket _ | sendText socket _ | process socket _ _ | notify socket _ _ => socket

/-- What a frame makes of the session it has come from. -/
structure Handling where
  session : Session
  /-- Whether the connection ends. -/
  ends : Bool
  actions : List Action := []

/-- `FRAME_OP_BITMASK`. -/
def frameOp (flags : UInt32) : UInt32 := flags &&& 0x0f

/-- `FRAME_OP_TEXT`. -/
def opText : UInt32 := 0x01

/-- `FRAME_OP_CLOSE`. -/
def opClose : UInt32 := 0x08

/-- `FRAME_OP_PING`. -/
def opPing : UInt32 := 0x09

/-- A buffer read as a C string, after a zero has been appended. -/
def cString (payload : List Char) : List Char := payload.takeWhile (· ≠ '\x00')

/-- The loop over a list of notifications to drop: what has been read, and whether no conversion has thrown. -/
def readFilters (poco : Poco) : List Var → List UInt64 × Bool
  | [] => ([], true)
  | element :: rest =>
    match poco.toUInt64 element with
    | some id => let (ids, complete) := readFilters poco rest; (id :: ids, complete)
    | none => ([], false)

/-- `NotificationTypesJSON_` after `SortNotifications`. -/
def notificationTypesJson (types : List NotificationEntry) : JsonObject :=
  [("notificationTypes", .array (types.map fun entry =>
    .object [("id", .int entry.id.toNat), ("helper", .string entry.helper)]))]

/-- The text of a session that has yet to show a token: two parts, of which the second one is the token. -/
def readToken (reading : Reading) (socket : Int) (types : JsonObject) (session : Session) (text : List Char) :
    Handling :=
  let refused (userInfo : UserInfoAndPolicy) : Handling :=
    ⟨{ session with userInfo }, true,
      [.sendDocument socket [("error", .string "Invalid token. Closing connection.")]]⟩
  match Utils.split ':' text with
  | [_, token] =>
    let (accepted, userInfo) := reading.isAuthorized (String.ofList token) session.userInfo
    if accepted then
      ⟨{ session with userInfo, authenticated := true, userName := userInfo.userinfo.email }, !reading.sends,
        [.sendDocument socket (types.set "success" (.string "Welcome! Bienvenue! Bienvenidos!"))]⟩
    else refused userInfo
  | _ => refused session.userInfo

/-- The text of a session that has shown its token: a list of notifications to drop, or one for the processor. -/
def readCommand (poco : Poco) (reading : Reading) (socket : Int) (session : Session) (text : List Char) :
    Handling :=
  match poco.parseObject (String.ofList text) with
  | none => ⟨session, true, []⟩
  | some document =>
    match document.get "drop-notifications" with
    | .array filters =>
      let (ids, complete) := readFilters poco filters
      -- The list is sorted only after all of it has been read.
      if complete then ⟨{ session with filter := ids.mergeSort }, false, []⟩
      else ⟨{ session with filter := ids }, true, []⟩
    | _ =>
      match reading.processor with
      | none => ⟨session, !reading.sends, [.sendText socket "\x7b\x7d"]⟩
      | some processor =>
        let called := Action.process socket document session.userInfo.userinfo
        match processor document session.userInfo.userinfo with
        | none => ⟨session, true, [called]⟩
        | some (answer, close) =>
          let answer := if answer.isEmpty then "\x7b\x7d" else answer
          ⟨session, !reading.sends || close, [called, .sendText socket answer]⟩

/-- What `OnSocketReadable` makes of a frame, the exceptions included. -/
def readFrame (poco : Poco) (reading : Reading) (socket : Int) (types : JsonObject) (session : Session) :
    Handling :=
  match reading.received with
  | none => ⟨session, true, []⟩
  | some frame =>
    -- An empty frame ends the connection, whatever its kind is.
    if frame.size = 0 then ⟨session, true, []⟩
    else if frameOp frame.flags = opPing then ⟨session, !reading.sends, [.pong socket]⟩
    else if frameOp frame.flags = opClose then ⟨session, true, []⟩
    else if frameOp frame.flags = opText then
      if session.authenticated then readCommand poco reading socket session (cString frame.payload)
      else readToken reading socket types session (cString frame.payload)
    else ⟨session, false, []⟩

end UI_WebSocketClientServer

open UI_WebSocketClientServer

/-- The state of `UI_WebSocketClientServer`. -/
structure UI_WebSocketClientServer where
  /-- `Clients_`, by file descriptor. -/
  clients : Std.ExtTreeMap Int Session := ∅
  /-- `ToBeRemoved_`: iterators, each known by its key. -/
  toBeRemoved : List Int := []
  /-- `UsersConnected_`. -/
  usersConnected : Nat := 0
  notificationTypes : List NotificationEntry := []
  /-- `NotificationTypesJSON_`. -/
  notificationTypesJSON : JsonObject := []
  /-- Whether an iterator has been erased that no longer pointed to an entry, which is undefined. -/
  dangling : Bool := false

namespace UI_WebSocketClientServer

/-- What reaches the server, one thread at a time as its mutex has it. -/
inductive Event where
  | newClient (socket : Int) (id userName : String)
  | readable (socket : Int) (reading : Reading)
  | error (socket : Int)
  | shutdown (socket : Int)
  /-- One pass of the loop in `run`. -/
  | cleaner
  | sendToUser (userName : String) (id : UInt64) (payload : List UInt8)
      (sendFrame : Int → List UInt8 → Int → Option Int)
  | sendToAll (id : UInt64) (payload : List UInt8)
  | registerNotifications (notifications : List NotificationEntry)

/-- The sessions as a notification goes through them. -/
def clientList (clients : Std.ExtTreeMap Int Session) : ClientList where
  sessions := clients.toList.map fun entry => (entry.1, entry.2.toUI_WebSocketClientInfo)
  ordered := by
    -- The entries of the map are in the order of their sockets.
    rw [List.pairwise_map]
    exact Std.ExtTreeMap.ordered_keys_toList.imp fun before => Int.compare_eq_lt.mp before

/-- `NewClient`. -/
def newClient (s : UI_WebSocketClientServer) (socket : Int) (id userName : String) : UI_WebSocketClientServer :=
  let clients := s.clients.insert socket
    { id, userName, authenticated := false, filter := [], socketRegistered := true }
  { s with clients, usersConnected := clients.size }

/-- `EndConnection`, for the session of a socket. -/
def endConnection (s : UI_WebSocketClientServer) (socket : Int) (session : Session) : UI_WebSocketClientServer :=
  { s with
    clients := s.clients.insert socket { session with socketRegistered := false }
    toBeRemoved := s.toBeRemoved ++ [socket] }

/-- `OnSocketError` and `OnSocketShutdown`. -/
def onSocketClosed (s : UI_WebSocketClientServer) (socket : Int) : UI_WebSocketClientServer :=
  match s.clients[socket]? with
  | none => s
  | some session => s.endConnection socket session

/-- `OnSocketReadable`. -/
def onSocketReadable (poco : Poco) (s : UI_WebSocketClientServer) (socket : Int) (reading : Reading) :
    UI_WebSocketClientServer × List Action :=
  match s.clients[socket]? with
  | none => (s, [])
  | some session =>
    let handled := readFrame poco reading socket s.notificationTypesJSON session
    if handled.ends then (s.endConnection socket handled.session, handled.actions)
    else ({ s with clients := s.clients.insert socket handled.session }, handled.actions)

/-- The loop of the cleaner over `ToBeRemoved_`: the entries that are left, and whether an iterator was dangling. -/
def eraseAll (clients : Std.ExtTreeMap Int Session) : List Int → Std.ExtTreeMap Int Session × Bool
  | [] => (clients, false)
  | socket :: rest =>
    let (left, dangling) := eraseAll (clients.erase socket) rest
    (left, !clients.contains socket || dangling)

/-- One pass of the loop in `run`. -/
def clean (s : UI_WebSocketClientServer) : UI_WebSocketClientServer :=
  let (clients, dangling) := eraseAll s.clients s.toBeRemoved
  { s with clients, toBeRemoved := [], usersConnected := clients.size, dangling := s.dangling || dangling }

/-- `RegisterNotifications`, with `SortNotifications`. -/
def registerNotifications (s : UI_WebSocketClientServer) (notifications : List NotificationEntry) :
    UI_WebSocketClientServer :=
  let notificationTypes := (s.notificationTypes ++ notifications).mergeSort fun left right => left.id ≤ right.id
  { s with notificationTypes, notificationTypesJSON := notificationTypesJson notificationTypes }

/-- The server after an event, and what it has done. -/
@[grind =]
def handle (poco : Poco) (s : UI_WebSocketClientServer) : Event → UI_WebSocketClientServer × List Action
  | .newClient socket id userName => (s.newClient socket id userName, [])
  | .readable socket reading => s.onSocketReadable poco socket reading
  | .error socket => (s.onSocketClosed socket, [])
  | .shutdown socket => (s.onSocketClosed socket, [])
  | .cleaner => (s.clean, [])
  | .sendToUser userName id payload sendFrame =>
    (s, (sendToUser sendFrame (clientList s.clients) userName id payload).2.toList.map (.notify · id payload))
  | .sendToAll id payload => (s, (sendToAll (clientList s.clients) id).map (.notify · id payload))
  | .registerNotifications notifications => (s.registerNotifications notifications, [])

/-- The server after an event. -/
def step (poco : Poco) (s : UI_WebSocketClientServer) (event : Event) : UI_WebSocketClientServer :=
  (s.handle poco event).1

/--
What the system guarantees about an event.

The descriptor of a new socket is none that is open, and the reactor calls no handler that has been removed.
-/
def Permitted (s : UI_WebSocketClientServer) : Event → Prop
  | .newClient socket _ _ => s.clients[socket]? = none
  | .readable socket _ | .error socket | .shutdown socket =>
    ∀ session, s.clients[socket]? = some session → session.socketRegistered = true
  | _ => True

end UI_WebSocketClientServer

end Fms
