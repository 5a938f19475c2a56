import Fms.Framework.FieldToJson
import Fms.Framework.MicroService
import Fms.Framework.RequestHandler
import Fms.Relation.Broadcast

/-! `EventBusManager`: the services of a system announce themselves to each other, and call each other. -/

namespace Fms

open ServiceEvents

/-- What `LoadMyConfig` makes of the configuration of a service. -/
structure ServiceConfig where
  /-- `ID_`. -/
  id : UInt64
  /-- `DAEMON_APP_NAME`. -/
  appName : String
  publicEndPoint : String
  privateEndPoint : String
  /-- `MyHash_`, the hash of the public endpoint. -/
  hash : String
  version : String
  deriving DecidableEq, Repr

/-- The object of `MakeSystemEventMessage`. -/
def ServiceConfig.systemEvent (config : ServiceConfig) (eventType : String) : JsonObject :=
  (((((((JsonObject.set [] "event" (.string eventType)).set "id" (.int config.id.toNat)).set "type"
    (.string (toLower config.appName))).set "publicEndPoint" (.string config.publicEndPoint)).set "privateEndPoint"
    (.string config.privateEndPoint)).set "key" (.string config.hash)).set "version" (.string config.version))

/-- The entry that a service is to have in the lists of the others. -/
def ServiceConfig.listed (config : ServiceConfig) (lastUpdate : UInt64) : MicroServiceMeta where
  id := config.id
  type := toLower config.appName
  privateEndPoint := config.privateEndPoint
  publicEndPoint := config.publicEndPoint
  accessKey := config.hash
  version := config.version
  lastUpdate := lastUpdate

/-- Where the thread of `EventBusManager` is. -/
inductive BusPhase where
  /-- It has not been started. -/
  | idle
  | running
  /-- It has left the loop, and posted its last message. -/
  | stopped
  deriving DecidableEq, Repr

/-- What moves the thread on. -/
inductive BusCall where
  /-- `Start`: the thread joins. -/
  | start
  /-- The timer of the loop has run down. -/
  | timer
  /-- `Stop`: the thread wakes up, and leaves. -/
  | stop
  deriving DecidableEq, Repr

/-- `EventBusManager::run`: the events it posts, one at each stop of the thread. -/
def EventBusManager.run : BusCall → BusPhase → BusPhase × List String
  | .start, .idle => (.running, [eventJoin])
  | .timer, .running => (.running, [eventKeepAlive])
  | .stop, .running => (.stopped, [eventLeave])
  | _, phase => (phase, [])

/-- A message on the bus, which the producer stamps with the time it is posted at. -/
structure KafkaMessage where
  payload : String
  timestamp : UInt64
  deriving DecidableEq, Repr

/-- What a service reads its clock for while it processes a message. -/
structure BusReadings where
  updated : UInt64
  now : UInt64
  deriving DecidableEq, Repr

/-- A process of a service, as far as the bus is concerned. -/
structure BusProcess where
  phase : BusPhase := .idle
  service : MicroService

/-- The bus, and the processes at it. -/
abbrev BusState (ι : Type) := Broadcast.State ι KafkaMessage BusProcess

/-- What happens at the bus, with the times it happens at. -/
abbrev BusTurn (ι : Type) := Broadcast.Turn ι (BusCall × UInt64) BusReadings

/-- Services that share a bus, and the library they read and write their messages with. -/
structure Fleet (ι : Type) where
  config : ι → ServiceConfig
  poco : Poco
  /-- `Stringifier::stringify`. -/
  stringify : JsonObject → String

namespace Fleet

variable {ι : Type} (fleet : Fleet ι)

/-- `MakeSystemEventMessage`. -/
def makeSystemEventMessage (i : ι) (eventType : String) : String :=
  fleet.stringify ((fleet.config i).systemEvent eventType)

/-- A process that has just been started: it knows of no service. -/
def boot (i : ι) : BusProcess where
  service := { id := (fleet.config i).id }

/-- What the processes do: they announce themselves, and they take in what the others announce. -/
def protocol : Broadcast.Protocol ι KafkaMessage BusProcess (BusCall × UInt64) BusReadings where
  act i input s :=
    let (phase, events) := EventBusManager.run input.1 s.phase
    ({ s with phase }, events.map fun event => ⟨fleet.makeSystemEventMessage i event, input.2⟩)
  receive _ readings message s :=
    { s with service := s.service.busMessageReceived fleet.poco ⟨message.payload, readings.updated, readings.now⟩ }
  boot i _ := fleet.boot i

/-- No process has been started yet, and the bus is empty. -/
def start : BusState ι where
  knows := fleet.boot

/--
The library reads the messages of the fleet back as they have been written.

An object comes back with the same members, in whatever order.
-/
structure ReadsBack : Prop where
  converts : fleet.poco.Converts
  readsBack : ∀ i, ∀ event ∈ [eventJoin, eventKeepAlive, eventLeave],
    ∃ read, fleet.poco.parseObject (fleet.makeSystemEventMessage i event) = some read ∧
      ∀ name, read.has name = ((fleet.config i).systemEvent event).has name ∧
        read.get name = ((fleet.config i).systemEvent event).get name

end Fleet

/-- The request of `OpenAPIRequestGet`, `Put`, `Post` and `Delete` to one instance, without a token. -/
def OpenAPIRequest.toInstance (method path : String) (Body : Option String) (Svc : MicroServiceMeta)
    (publicEndPoint : String) : RESTAPIHandler.HttpRequest where
  method := method
  uri := path
  headers :=
    (match Body with
      | some obody => [("Content-Type", "application/json"), ("Content-Length", toString obody.utf8ByteSize)]
      | none => []) ++ [("X-API-KEY", Svc.accessKey), ("X-INTERNAL-NAME", publicEndPoint)]
  contentLength := Body.elim 0 fun obody => obody.utf8ByteSize
  contentType := Body.elim "" fun _ => "application/json"
  body := Body.getD ""

end Fms
