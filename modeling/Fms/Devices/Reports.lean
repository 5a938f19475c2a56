import Fms.Devices.DevicesDb
import Fms.Upgrade.AutoUpdater

/-! `NewConnectionHandler`: what a report from a gateway changes in the service. -/

namespace Fms

/-- `DeviceCacheEntry`. -/
structure DeviceCacheEntry where
  deviceType : String
  host : String
  revision : String
  deriving DecidableEq, Repr

/-- `DeviceCacheMap`: a `std::map` from serial numbers to entries. -/
abbrev DeviceCacheMap := Std.ExtTreeMap String DeviceCacheEntry

namespace DeviceCache

/-- `AddToCache`. -/
def addToCache (deviceCache : DeviceCacheMap)
    (serialNumber deviceType host revision : String) : DeviceCacheMap :=
  match deviceCache[serialNumber]? with
  | none => deviceCache.insert serialNumber { deviceType, host, revision }
  | some device => deviceCache.insert serialNumber { device with revision, host, deviceType }

/-- Adding a device writes its own entry, whether it is new or known, and no other one. -/
theorem getElem?_addToCache (deviceCache : DeviceCacheMap)
    (serialNumber deviceType host revision other : String) :
    (addToCache deviceCache serialNumber deviceType host revision)[other]? =
      if serialNumber = other then some { deviceType, host, revision } else deviceCache[other]? := by
  -- Both branches insert an entry with the same three values.
  unfold addToCache
  cases deviceCache[serialNumber]? <;> simp [Std.ExtTreeMap.getElem?_insert]

end DeviceCache

/-- The parts of the service that reports change or read. -/
structure Service where
  catalogue : Catalogue := {}
  tables : DeviceTables := {}
  deviceCache : DeviceCacheMap := ∅
  autoUpdater : AutoUpdater := {}

/-- What the handler takes from a message before it changes anything. -/
inductive Report where
  | connection (serial deviceType revision endPoint : String)
  | disconnection (sNum endPoint : String)
  | ping (serial deviceType revision endPoint : String)
  deriving DecidableEq, Repr

/-- `Storage::TrimRevision`, which trims nothing. -/
def trimRevision (r : String) : String := r

namespace NewConnectionHandler

/-- The host of a message, empty when it names none. -/
def readEndPoint (poco : Poco) (object : JsonObject) : Option String :=
  if object.has "system" then do
    let systemObj ← object.getObject "system"
    if systemObj.has "host" then poco.toString (systemObj.get "host") else some ""
  else some ""

/-- The branch for messages with capabilities. -/
def readConnection (poco : Poco) (endPoint : String) (payloadObj : JsonObject) : Option Report := do
  let capObj ← payloadObj.getObject "capabilities"
  if capObj.has "compatible" then
    let deviceType ← poco.toString (capObj.get "compatible")
    let serial ← poco.toString (payloadObj.get "serial")
    let firmware ← poco.toString (payloadObj.get "firmware")
    some (.connection serial deviceType (trimRevision firmware) endPoint)
  else none

/-- The branch for messages about a disconnection; the time has to be there, and is not used. -/
def readDisconnection (poco : Poco) (endPoint : String) (payloadObj : JsonObject) :
    Option Report := do
  let disconnectMessage ← payloadObj.getObject "disconnection"
  if disconnectMessage.has "serialNumber" && disconnectMessage.has "timestamp" then
    let sNum ← poco.toString (disconnectMessage.get "serialNumber")
    some (.disconnection sNum endPoint)
  else none

/-- The branch for ping messages. -/
def readPing (poco : Poco) (endPoint : String) (payloadObj : JsonObject) : Option Report := do
  let pingMessage ← payloadObj.getObject "ping"
  if pingMessage.has "firmware" && pingMessage.has "serialNumber" && pingMessage.has "compatible" then
    let firmware ← poco.toString (pingMessage.get "firmware")
    let serial ← poco.toString (pingMessage.get "serialNumber")
    let deviceType ← poco.toString (pingMessage.get "compatible")
    some (.ping serial deviceType (trimRevision firmware) endPoint)
  else none

/-- The report in a message; there is none where the handler throws or finds nothing to do. -/
def readMessage (poco : Poco) (message : String) : Option Report := do
  let object ← poco.parseObject message
  let endPoint ← readEndPoint poco object
  if object.has "payload" then
    let payloadObj ← object.getObject "payload"
    if payloadObj.has "capabilities" then readConnection poco endPoint payloadObj
    else if payloadObj.has "disconnection" then readDisconnection poco endPoint payloadObj
    else if payloadObj.has "ping" then readPing poco endPoint payloadObj
    else none
  else none

/-- Queue a device that does not run the latest firmware of its type. -/
def queueUnlessLatest (serialNumber deviceType revision : String) (s : Service) : Service :=
  if !s.catalogue.latestFirmwareCache.isLatest deviceType revision then
    { s with autoUpdater := s.autoUpdater.toBeUpgraded serialNumber deviceType }
  else s

/-- The changes of a report; `serialNumber` is the key its message came with. -/
def applyReport (type : DBType) (ctx : DeviceContext) (serialNumber : String) (s : Service) :
    Report → Service
  | .connection serial deviceType revision endPoint =>
    let s :=
      if (FirmwaresDB.computeFirmwareAge type s.catalogue deviceType revision).isSome then
        { s with
          tables := (DevicesDB.setDeviceRevision type s.catalogue ctx s.tables serialNumber revision
            deviceType endPoint).2 }
      else s
    let s := queueUnlessLatest serialNumber deviceType revision s
    { s with
      deviceCache := DeviceCache.addToCache s.deviceCache serial deviceType endPoint revision }
  | .disconnection sNum endPoint =>
    { s with tables := (DevicesDB.setDeviceDisconnected s.tables sNum endPoint).2 }
  | .ping serial deviceType revision endPoint =>
    let s := { s with
      tables := (DevicesDB.setDeviceRevision type s.catalogue ctx s.tables serial revision deviceType
        endPoint).2 }
    let s := { s with
      deviceCache := DeviceCache.addToCache s.deviceCache serial deviceType endPoint revision }
    queueUnlessLatest serialNumber deviceType revision s

/-- The body of the loop in `run`, for a key and a message taken from the queue. -/
def handle (poco : Poco) (type : DBType) (ctx : DeviceContext) (s : Service)
    (connection : String × String) : Service :=
  match readMessage poco connection.2 with
  | some report => applyReport type ctx connection.1 s report
  -- A message without a report changes nothing, and the handler around the body logs exceptions.
  | none => s

end NewConnectionHandler

end Fms
