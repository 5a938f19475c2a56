import Fms.Storage.Orm

/-! The records of the three tables, and their columns. -/

namespace Fms

/-- `SecurityObjects::NoteInfo`. -/
structure NoteInfo where
  created : UInt64 := 0
  createdBy : String := ""
  note : String := ""
  deriving DecidableEq, Repr

/-- `FMSObjects::Firmware`: one row of the catalogue. -/
structure Firmware where
  id : String := ""
  release : String := ""
  deviceType : String := ""
  description : String := ""
  revision : String := ""
  uri : String := ""
  image : String := ""
  imageDate : UInt64 := 0
  size : UInt64 := 0
  downloadCount : UInt64 := 0
  firmwareHash : String := ""
  owner : String := ""
  location : String := ""
  uploader : String := ""
  digest : String := ""
  latest : Bool := false
  notes : List NoteInfo := []
  created : UInt64 := 0
  deriving DecidableEq, Repr

/-- `FMSObjects::DeviceConnectionInformation`: one row of the devices table. -/
structure DeviceConnectionInformation where
  serialNumber : String := ""
  revision : String := ""
  deviceType : String := ""
  endPoint : String := ""
  lastUpdate : UInt64 := 0
  status : String := ""
  deriving DecidableEq, Repr

/-- `FMSObjects::RevisionHistoryEntry`: one row of the history table. -/
structure RevisionHistoryEntry where
  id : String := ""
  serialNumber : String := ""
  fromRelease : String := ""
  toRelease : String := ""
  commandUUID : String := ""
  revisionId : String := ""
  upgraded : UInt64 := 0
  deriving DecidableEq, Repr

/-- An unsigned number as a `bigint` column holds it: from 2^63 on it has become negative. -/
def bigint (value : UInt64) : Int :=
  value.toInt64.toInt

/-- The columns of `FirmwaresDB_Fields`; no statement compares the notes, whose text is a JSON array. -/
@[grind =]
def firmwareColumns : String → Option (Sql.Column Firmware)
  | "id" => some (.text Firmware.id)
  | "release" => some (.text Firmware.release)
  | "devicetype" => some (.text Firmware.deviceType)
  | "description" => some (.text Firmware.description)
  | "revision" => some (.text Firmware.revision)
  | "uri" => some (.text Firmware.uri)
  | "image" => some (.text Firmware.image)
  | "imagedate" => some (.number fun row => bigint row.imageDate)
  | "size" => some (.number fun row => bigint row.size)
  | "downloadcount" => some (.number fun row => bigint row.downloadCount)
  | "firmwarehash" => some (.text Firmware.firmwareHash)
  | "owner" => some (.text Firmware.owner)
  | "location" => some (.text Firmware.location)
  | "uploader" => some (.text Firmware.uploader)
  | "digest" => some (.text Firmware.digest)
  | "latest" => some (.boolean Firmware.latest)
  | "created" => some (.number fun row => bigint row.created)
  | _ => none

/-- The columns of `DevicesDB_Fields`. -/
@[grind =]
def deviceColumns : String → Option (Sql.Column DeviceConnectionInformation)
  | "serialnumber" => some (.text DeviceConnectionInformation.serialNumber)
  | "revision" => some (.text DeviceConnectionInformation.revision)
  | "devicetype" => some (.text DeviceConnectionInformation.deviceType)
  | "endpoint" => some (.text DeviceConnectionInformation.endPoint)
  | "lastupdate" => some (.number fun row => bigint row.lastUpdate)
  | "status" => some (.text DeviceConnectionInformation.status)
  | _ => none

/-- The columns of `HistoryDB_Fields`. -/
@[grind =]
def historyColumns : String → Option (Sql.Column RevisionHistoryEntry)
  | "id" => some (.text RevisionHistoryEntry.id)
  | "serialnumber" => some (.text RevisionHistoryEntry.serialNumber)
  | "fromrelease" => some (.text RevisionHistoryEntry.fromRelease)
  | "torelease" => some (.text RevisionHistoryEntry.toRelease)
  | "commanduuid" => some (.text RevisionHistoryEntry.commandUUID)
  | "revisionid" => some (.text RevisionHistoryEntry.revisionId)
  | "upgraded" => some (.number fun row => bigint row.upgraded)
  | _ => none

/-- The `firmwares` table. -/
def firmwaresSchema : Schema Firmware := ⟨firmwareColumns, Firmware.id⟩

/-- The `devices` table. -/
def devicesSchema : Schema DeviceConnectionInformation :=
  ⟨deviceColumns, DeviceConnectionInformation.serialNumber⟩

/-- The `history` table. -/
def historySchema : Schema RevisionHistoryEntry := ⟨historyColumns, RevisionHistoryEntry.id⟩

/-- The stored firmware records. -/
abbrev FirmwaresTable := firmwaresSchema.Table

/-- The stored device records. -/
abbrev DevicesTable := devicesSchema.Table

/-- The stored history records. -/
abbrev HistoryTable := historySchema.Table

/-- Firmware rows are keyed by their id. -/
@[simp] theorem firmwaresSchema_key (row : Firmware) : firmwaresSchema.key row = row.id := rfl

/-- Device rows are keyed by their serial number. -/
@[simp] theorem devicesSchema_key (row : DeviceConnectionInformation) :
    devicesSchema.key row = row.serialNumber := rfl

/-- History rows are keyed by their id. -/
@[simp] theorem historySchema_key (row : RevisionHistoryEntry) : historySchema.key row = row.id := rfl

end Fms
