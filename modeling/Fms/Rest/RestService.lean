import Fms.Devices.Dashboard
import Fms.Devices.Reports
import Fms.Framework.SubSystems
import Fms.Rest.Deletions
import Fms.Rest.FirmwareHandler
import Fms.Rest.FmsObjects
import Fms.Rest.Router

/-! The two servers of the service: what each request does to its state. -/

namespace Fms

namespace Errors

/-- `MissingSerialNumber`. -/
def missingSerialNumber : Msg := ⟨1001, "Missing Serial Number."⟩

/-- `NotImplemented`. -/
def notImplemented : Msg := ⟨1062, "Function not implemented."⟩

/-- `FirmwareBDInProgress`. -/
def firmwareBDInProgress : Msg := ⟨1170, "Firmware DB update already in progress."⟩

end Errors

/-- `GetDevices`: a page of the devices, in the order of their serial numbers; none for an empty one. -/
def DevicesDB.getDevices (collation : KeyOrder) (devices : DevicesTable) (From HowMany : Nat) :
    Option (List DeviceConnectionInformation) :=
  let ordered := devices.rows.insertionSort fun left right => collation.le left.serialNumber right.serialNumber = true
  let page := (ordered.drop From).take HowMany
  if page.isEmpty then none else some page

namespace RESTAPI

open RESTAPIHandler

/-- The parts of the service that its requests read or change. -/
structure RestService where
  service : Service := {}
  dashboard : DeviceDashboard := {}
  /-- `UpdateRunning_`. -/
  updateRunning : Bool := false
  /-- Whether `RunnerThread_` has a target. -/
  runnableTarget : Bool := false
  /-- `LastUpdate_`. -/
  lastUpdate : UInt64 := 0
  subSystems : List SubSystem := []

/-- What a method takes from outside. -/
structure Environment where
  poco : Poco
  /-- `Poco::JSON::Stringifier::condense`, for an array. -/
  condense : List Var → String
  type : DBType
  collation : KeyOrder
  /-- `Poco::NumberParser::tryParse`. -/
  number : String → Option Int
  /-- `MicroServiceConfigGetString`, with the empty text as its default. -/
  config : String → String
  /-- `Utils::Now`. -/
  now : UInt64 := 0
  /-- `MicroServiceCreateUUID`. -/
  uuid : String := ""
  /-- Whether the database executes the statement of the request. -/
  executed : Bool := true
  /-- What a user has for a role that nobody has set. -/
  freshRole : UserRole := .unknown
  /-- What the database extracts from the two statements about all devices. -/
  unknowns : Sql.Select → Option (List (String × String × UInt64)) := fun _ => none
  currents : Sql.Select → Option (List (UInt64 × String × String)) := fun _ => none
  /-- What the commands `info`, `extraConfiguration` and `resources` report. -/
  info : JsonObject := []
  extraConfiguration : JsonObject := []
  resources : JsonObject := []

/-- What a method answers a request with. -/
inductive Response where
  | answer (answer : Answer)
  /-- `ReturnRawJSON`. -/
  | rawJSON (document : Var)
  /-- `UnAuthorized`. -/
  | unAuthorized (error : Msg)
  /-- The method is empty, or leaves the answer to a socket. -/
  | nothing

/-- How a method ends, and what it leaves. -/
abbrev Ending := Except Thrown Response × RestService

/-- A method that answers, and leaves everything as it is. -/
def Ending.read (s : RestService) (answer : Answer) : Ending := (.ok (.answer answer), s)

variable (env : Environment) (bindings : BindingMap) (call : Call) (s : RestService)

/-- A text of the query. -/
def text (name : String) : String := getText call.query.parameters name ""

/-- A flag of the query. -/
def flag (name : String) : Bool := getBoolParameter call.query.parameters name false

/-- The role of the user; a user nobody has filled in has none. -/
def userRole : UserRole :=
  if call.userInfo = {} then env.freshRole else call.userInfo.userinfo.userRole

namespace Firmwares

/-- `RESTAPI_firmwaresHandler::DoGet`. -/
def doGet : Ending :=
  .read s (FirmwaresHandler.doGet env.type s.lastUpdate s.service.catalogue {
    deviceType := text call "deviceType"
    idOnly := flag call "idOnly"
    latestOnly := flag call "latestOnly"
    rcOnly := flag call "rcOnly"
    updateTimeOnly := flag call "updateTimeOnly"
    deviceSet := flag call "deviceSet"
    revisionSet := flag call "revisionSet"
    offset := call.query.qb.offset.toNat
    limit := call.query.qb.limit.toNat })

/-- `ManifestCreator::RunUpdateTask`, which throws where the thread before has a target still. -/
def runUpdateTask : Except Thrown Bool × RestService :=
  if s.updateRunning then (.ok false, s)
  else if s.runnableTarget then (.error (.poco "System exception"), { s with updateRunning := true })
  else (.ok true, { s with updateRunning := true, runnableTarget := true })

/-- `RESTAPI_firmwaresHandler::DoPut`. -/
def doPut : Ending :=
  if userRole env call ≠ .root ∧ userRole env call ≠ .admin then (.ok (.unAuthorized Errors.accessDenied), s)
  else if flag call "update" then
    match runUpdateTask s with
    | (.ok true, s) => .read s .ok
    | (.ok false, s) => .read s (.badRequest Errors.firmwareBDInProgress)
    | (.error thrown, s) => (.error thrown, s)
  else .read s (.badRequest Errors.missingOrInvalidParameters)

end Firmwares

namespace SystemConfiguration

/-- `RESTAPI_system_configuration::DoGet`. -/
def doGet : Ending :=
  let entries := text call "entries"
  if entries = "" then .read s (.badRequest Errors.missingOrInvalidParameters)
  else (.ok (.rawJSON (.array ((trimmedTokens ',' entries).map fun entry =>
    .object ((JsonObject.set [] "parameterName" (.string entry)).set "parameterValue" (.string (env.config entry)))))), s)

/-- `RESTAPI_system_configuration::DoPut` and `DoDelete`. -/
def refuse : Ending :=
  if userRole env call ≠ .root then (.ok (.unAuthorized Errors.accessDenied), s)
  else .read s (.badRequest Errors.notImplemented)

end SystemConfiguration

namespace Firmware

/-- The id of the path. -/
def uuid : String := getBinding bindings "id" ""

/-- `RESTAPI_firmwareHandler::DoGet`. -/
def doGet : Ending :=
  if uuid bindings = "" then .read s (.badRequest Errors.missingUUID)
  else
    match FirmwaresDB.getFirmware s.service.catalogue (uuid bindings) with
    | some F => .read s (.object F.toJson)
    | none => .read s .notFound

/-- `RESTAPI_firmwareHandler::DoPost`; a missing body is a null pointer, from which no member is read. -/
def doPost : Ending :=
  let (answer, catalogue) := FirmwareHandler.doPost env.poco env.type ⟨env.uuid, env.executed⟩ s.service.catalogue
    (call.parsedBody.getD [])
  .read { s with service.catalogue := catalogue } answer

/-- `RESTAPI_firmwareHandler::DoPut`; a missing body throws once the row has been read. -/
def doPut : Ending :=
  match call.parsedBody with
  | some Obj =>
    let (answer, catalogue) := FirmwareHandler.doPut env.poco env.condense
      ⟨env.now, call.userInfo.userinfo.email, env.executed⟩ s.service.catalogue (uuid bindings) Obj
    .read { s with service.catalogue := catalogue } answer
  | none =>
    if uuid bindings = "" then .read s (.badRequest Errors.missingUUID)
    else
      match FirmwaresDB.getFirmware s.service.catalogue (uuid bindings) with
      | some _ => (.error (.poco "Null pointer"), s)
      | none => .read s .notFound

/-- `RESTAPI_firmwareHandler::DoDelete`. -/
def doDelete : Ending :=
  let (answer, firmwares) := FirmwareHandler.doDelete env.executed s.service.catalogue.firmwares (uuid bindings)
  .read { s with service.catalogue.firmwares := firmwares } answer

end Firmware

namespace SystemCommand

/-- `RESTAPI_system_command::DoGet`. -/
def doGet : Ending :=
  match hasText call.query.parameters "command" with
  | some "info" => .read s (.object env.info)
  | some "extraConfiguration" => .read s (.object env.extraConfiguration)
  | some "resources" => .read s (.object env.resources)
  | _ => .read s (.badRequest Errors.invalidCommand)

/-- `RESTAPI_system_command::DoPost`. -/
def doPost : Ending :=
  let (ending, subSystems) := SubSystems.doPost env.poco env.number call.parsedBody s.subSystems
  (ending.map .answer, { s with subSystems })

end SystemCommand

namespace FirmwareAge

/-- `RESTAPI_firmwareAgeHandler::DoGet`. -/
def doGet : Ending :=
  .read s (FirmwareAgeHandler.doGet env.type s.service.catalogue s.service.deviceCache {
    select := text call "select"
    deviceType := text call "deviceType"
    revision := text call "revision" })

end FirmwareAge

namespace ConnectedDevices

/-- `RESTAPI_connectedDevicesHandler::DoGet`. -/
def doGet : Ending :=
  let Devices := (DevicesDB.getDevices env.collation s.service.tables.devices call.query.qb.offset.toNat
    call.query.qb.limit.toNat).getD []
  .read s (.object (JsonObject.set [] "devices" (.array (Devices.map fun i => .object i.toJson))))

end ConnectedDevices

namespace ConnectedDevice

/-- `RESTAPI_connectedDeviceHandler::DoGet`. -/
def doGet : Ending :=
  let SerialNumber := getBinding bindings "serialNumber" ""
  if SerialNumber = "" then .read s (.badRequest Errors.missingSerialNumber)
  else
    match DevicesDB.getDevice s.service.tables.devices SerialNumber with
    | some DevInfo => .read s (.object DevInfo.toJson)
    | none => .read s .notFound

end ConnectedDevice

namespace History

/-- `RESTAPI_historyHandler::DoGet`. -/
def doGet : Ending :=
  let SerialNumber := Orm.escape (getBinding bindings "serialNumber" "")
  let Offset := call.query.qb.offset.toNat
  let Limit := call.query.qb.limit.toNat
  if SerialNumber = "" then .read s (.badRequest Errors.missingSerialNumber)
  else if SerialNumber = "000000000000" ∧ flag call "unknownList" = true then
    let devices := (HistoryDB.getUnknownDeviceFirmwares env.type env.unknowns Offset Limit).2
    .read s (.object (DeviceCurrentInfoList.toJson { devices }))
  else if SerialNumber = "000000000000" ∧ flag call "currentList" = true then
    let devices := (HistoryDB.getDeviceFirmwares env.type env.currents Offset Limit).2
    .read s (.object (DeviceCurrentInfoList.toJson { devices }))
  else
    match HistoryDB.getHistory env.type s.service.tables.history SerialNumber Offset Limit with
    | some H => .read s (.object (JsonObject.set [] "history" (.array (H.map fun i => .object i.toJson))))
    | none => .read s .notFound

/-- `RESTAPI_historyHandler::DoDelete`. -/
def doDelete : Ending :=
  let (answer, history) := HistoryHandler.doDelete env.executed s.service.tables.history
    (getBinding bindings "serialNumber" "") (text call "id")
  .read { s with service.tables.history := history } answer

end History

namespace DeviceReports

/-- `RESTAPI_deviceReportHandler::DoGet`. -/
def doGet : Ending :=
  match s.dashboard.get env.type s.service.catalogue s.service.tables.devices env.now env.now with
  | (true, Data, dashboard) => .read { s with dashboard } (.object Data.toJson)
  | (false, _, dashboard) => .read { s with dashboard } (.badRequest Errors.internalError)

end DeviceReports

namespace DeviceInformations

/-- `RESTAPI_deviceInformation_handler::DoGet`. -/
def doGet : Ending :=
  match DeviceInformation.doGet env.type s.service.catalogue s.service.tables (getBinding bindings "serialNumber" "") with
  | some DI => .read s (.object DI.toJson)
  | none => .read s (.badRequest Errors.missingOrInvalidParameters)

end DeviceInformations

/-- The methods of a class; those it leaves empty answer nothing. -/
structure DoMethods where
  doGet : Call → RestService → Ending := fun _ s => (.ok .nothing, s)
  doPost : Call → RestService → Ending := fun _ s => (.ok .nothing, s)
  doDelete : Call → RestService → Ending := fun _ s => (.ok .nothing, s)
  doPut : Call → RestService → Ending := fun _ s => (.ok .nothing, s)

/-- The methods of every class. -/
def Handler.doMethods : Handler → DoMethods
  | .firmwares => { doGet := Firmwares.doGet env, doPut := Firmwares.doPut env }
  | .systemConfiguration => {
      doGet := SystemConfiguration.doGet env
      doPut := SystemConfiguration.refuse env
      doDelete := SystemConfiguration.refuse env }
  | .firmware => {
      doGet := fun _ => Firmware.doGet bindings
      doPost := Firmware.doPost env
      doPut := Firmware.doPut env bindings
      doDelete := fun _ => Firmware.doDelete env bindings }
  | .systemCommand => { doGet := SystemCommand.doGet env, doPost := SystemCommand.doPost env }
  | .firmwareAge => { doGet := FirmwareAge.doGet env }
  | .connectedDevices => { doGet := ConnectedDevices.doGet env }
  | .connectedDevice => { doGet := fun _ => ConnectedDevice.doGet bindings }
  | .history => { doGet := History.doGet env bindings, doDelete := History.doDelete env bindings }
  | .deviceReport => { doGet := fun _ => DeviceReports.doGet env }
  | .deviceInformation => { doGet := fun _ => DeviceInformations.doGet env bindings }
  -- A socket that is upgraded is left to the server of the sessions.
  | .webSocketServer => {}
  | .unknownRequest => {}

/-- The methods of a class, as `handleRequest` chooses among them. -/
def Handler.perform (T : Handler) : Methods RestService Response := fun method call s =>
  if method = "GET" then (T.doMethods env bindings).doGet call s
  else if method = "POST" then (T.doMethods env bindings).doPost call s
  else if method = "DELETE" then (T.doMethods env bindings).doDelete call s
  else if method = "PUT" then (T.doMethods env bindings).doPut call s
  else (.ok .nothing, s)

/-- The class that a request to a server is handled by, and its bindings; none where its address throws. -/
def createRequestHandler (setting : Setting) (internal : Bool) (request : HttpRequest) :
    Option (Handler × BindingMap) :=
  match setting.uri request.uri with
  | .error _ => none
  | .ok (path, _) => some (router path (served internal) ∅)

end RESTAPI

end Fms
