import Fms.Devices.AgeZero
import Fms.Devices.Reports
import Fms.Framework.Answers
import Fms.Storage.Objects
import Fms.Storage.PageQueries

/-! The requests that look up firmwares and their ages. -/

namespace Fms

/-- `FirmwareAgeDetails::to_json`. -/
def FirmwaresDB.FirmwareAgeDetails.toJson : FirmwareAgeDetails → JsonObject := FieldToJson.all [
  FieldToJson.string "latestId" FirmwareAgeDetails.latestId,
  FieldToJson.string "image" FirmwareAgeDetails.image,
  FieldToJson.uint64 "imageDate" FirmwareAgeDetails.imageDate,
  FieldToJson.string "revision" FirmwareAgeDetails.revision,
  FieldToJson.string "uri" FirmwareAgeDetails.uri,
  FieldToJson.uint64 "age" FirmwareAgeDetails.age,
  FieldToJson.bool "latest" FirmwareAgeDetails.latest]

/-- `DeviceCache::GetDevice`. -/
def DeviceCache.getDevice (deviceCache : DeviceCacheMap) (serialNumber : String) : Option DeviceCacheEntry :=
  deviceCache[serialNumber]?

namespace FirmwaresHandler

/-- The parameters of a request, as `GetParameter` and `GetBoolParameter` read them. -/
structure Parameters where
  deviceType : String := ""
  idOnly : Bool := false
  latestOnly : Bool := false
  rcOnly : Bool := false
  updateTimeOnly : Bool := false
  deviceSet : Bool := false
  revisionSet : Bool := false
  /-- `QB_.Offset`. -/
  offset : Nat := 0
  /-- `QB_.Limit`. -/
  limit : Nat := 100

/-- The answer with a list of firmwares, or of their ids. -/
def listed (p : Parameters) (List : List Firmware) : Answer :=
  let kept := List.filter fun i => !(p.rcOnly && !LatestFirmwareCache.isRC i.revision)
  .object (JsonObject.set [] "firmwares" (.array (kept.map fun i =>
    if p.idOnly then .string i.id else .object i.toJson)))

/-- `DoGet`, with the time of the last update of the catalogue. -/
def doGet (type : DBType) (lastUpdate : UInt64) (c : Catalogue) (p : Parameters) : Answer :=
  let DeviceType := Orm.escape p.deviceType
  if p.updateTimeOnly then .object (JsonObject.set [] "lastUpdateTime" (.int lastUpdate.toNat))
  else if p.deviceSet then
    .object (JsonObject.set [] "deviceTypes"
      (.array (c.latestFirmwareCache.getDevices.toList.map .string)))
  else if p.revisionSet then
    .object (JsonObject.set [] "revisions"
      (.array (c.latestFirmwareCache.getRevisions.toList.map .string)))
  else if DeviceType ≠ "" then
    if p.latestOnly then
      match if p.rcOnly then c.latestFirmwareCache.findLatestRCOnlyFirmware DeviceType
        else c.latestFirmwareCache.findLatestFirmware DeviceType with
      | none => .notFound
      | some Entry =>
        match FirmwaresDB.getFirmware c Entry.id with
        | some F => .object F.toJson
        | none => .notFound
    else
      match FirmwaresDB.getFirmwares type c p.offset p.limit DeviceType with
      | (true, List) => listed p List
      | (false, _) => .notFound
  else
    match FirmwaresDB.getFirmwares type c p.offset p.limit DeviceType with
    | (true, List) => listed p List
    | (false, _) => .object (JsonObject.set [] "firmwares" (.array []))

end FirmwaresHandler

namespace FirmwareAgeHandler

/-- The parameters of a request. -/
structure Parameters where
  /-- The serial numbers of `select`, separated by commas. -/
  select : String := ""
  deviceType : String := ""
  revision : String := ""

/-- The object for a selected serial number. -/
def selected (type : DBType) (c : Catalogue) (deviceCache : DeviceCacheMap) (i : String) : JsonObject :=
  match DeviceCache.getDevice deviceCache i with
  | some E =>
    match FirmwaresDB.computeFirmwareAge type c E.deviceType E.revision with
    | some FA => FA.toJson.set "serialNumber" (.string i)
    | none => JsonObject.set [] "serialNumber" (.string i)
  | none => JsonObject.set [] "serialNumber" (.string i)

/-- `DoGet`. -/
def doGet (type : DBType) (c : Catalogue) (deviceCache : DeviceCacheMap) (p : Parameters) : Answer :=
  let Select := stringTokens ',' p.select
  if Select ≠ [] then
    .object (JsonObject.set [] "ages" (.array (Select.map fun i => .object (selected type c deviceCache i))))
  else
    let DeviceType := Orm.escape p.deviceType
    let Revision := Orm.escape p.revision
    if DeviceType = "" ∨ Revision = "" then .badRequest Errors.bothDeviceTypeRevision
    else
      match FirmwaresDB.computeFirmwareAge type c DeviceType (trimRevision Revision) with
      | some FA => .object FA.toJson
      | none => .notFound

end FirmwareAgeHandler

end Fms
