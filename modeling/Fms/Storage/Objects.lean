import Fms.Framework.FieldToJson
import Fms.Security.Objects

/-! `FMSObjects`: how the records of the three tables are written to JSON objects and read from them. -/

namespace Fms

open FieldToJson

/-- `NoteInfo::to_json`. -/
def NoteInfo.toJson : NoteInfo → JsonObject := all [
  uint64 "created" NoteInfo.created,
  string "createdBy" NoteInfo.createdBy,
  string "note" NoteInfo.note]

/-- The steps of `Firmware::to_json`. -/
def Firmware.writers : List (FieldWriter Firmware) := [
  string "id" Firmware.id,
  string "release" Firmware.release,
  string "deviceType" Firmware.deviceType,
  string "description" Firmware.description,
  string "revision" Firmware.revision,
  string "uri" Firmware.uri,
  string "image" Firmware.image,
  uint64 "imageDate" Firmware.imageDate,
  uint64 "size" Firmware.size,
  uint64 "downloadCount" Firmware.downloadCount,
  string "firmwareHash" Firmware.firmwareHash,
  string "owner" Firmware.owner,
  string "location" Firmware.location,
  string "uploader" Firmware.uploader,
  string "digest" Firmware.digest,
  bool "latest" Firmware.latest,
  vector "notes" NoteInfo.toJson Firmware.notes,
  uint64 "created" Firmware.created]

/-- `Firmware::to_json`. -/
def Firmware.toJson : Firmware → JsonObject := all Firmware.writers

/-- The steps of `Firmware::from_json`. -/
def Firmware.readers (poco : Poco) : List (FieldReader Firmware) := [
  FieldFromJson.string poco "id" fun v F => { F with id := v },
  FieldFromJson.string poco "release" fun v F => { F with release := v },
  FieldFromJson.string poco "deviceType" fun v F => { F with deviceType := v },
  FieldFromJson.string poco "description" fun v F => { F with description := v },
  FieldFromJson.string poco "revision" fun v F => { F with revision := v },
  FieldFromJson.string poco "uri" fun v F => { F with uri := v },
  FieldFromJson.string poco "image" fun v F => { F with image := v },
  FieldFromJson.uint64 poco "imageDate" fun v F => { F with imageDate := v },
  FieldFromJson.uint64 poco "size" fun v F => { F with size := v },
  FieldFromJson.uint64 poco "downloadCount" fun v F => { F with downloadCount := v },
  FieldFromJson.string poco "firmwareHash" fun v F => { F with firmwareHash := v },
  FieldFromJson.string poco "owner" fun v F => { F with owner := v },
  FieldFromJson.string poco "location" fun v F => { F with location := v },
  FieldFromJson.string poco "uploader" fun v F => { F with uploader := v },
  FieldFromJson.string poco "digest" fun v F => { F with digest := v },
  FieldFromJson.bool poco "latest" fun v F => { F with latest := v },
  FieldFromJson.vector "notes" {} (NoteInfo.fromJson poco) Firmware.notes fun v F => { F with notes := v },
  FieldFromJson.uint64 poco "created" fun v F => { F with created := v }]

/-- `Firmware::from_json`, which returns true also where a step throws. -/
def Firmware.fromJson (poco : Poco) : FieldReader Firmware := fun obj F =>
  (true, (FieldFromJson.all (Firmware.readers poco) obj F).2)

/-- The steps of `DeviceConnectionInformation::to_json`. -/
def DeviceConnectionInformation.writers : List (FieldWriter DeviceConnectionInformation) := [
  string "serialNumber" DeviceConnectionInformation.serialNumber,
  string "revision" DeviceConnectionInformation.revision,
  string "deviceType" DeviceConnectionInformation.deviceType,
  string "endPoint" DeviceConnectionInformation.endPoint,
  uint64 "lastUpdate" DeviceConnectionInformation.lastUpdate,
  string "status" DeviceConnectionInformation.status]

/-- `DeviceConnectionInformation::to_json`. -/
def DeviceConnectionInformation.toJson : DeviceConnectionInformation → JsonObject :=
  all DeviceConnectionInformation.writers

/-- `DeviceConnectionInformation::from_json`. -/
def DeviceConnectionInformation.fromJson (poco : Poco) : FieldReader DeviceConnectionInformation :=
  FieldFromJson.all [
    FieldFromJson.string poco "serialNumber" fun v D => { D with serialNumber := v },
    FieldFromJson.string poco "revision" fun v D => { D with revision := v },
    FieldFromJson.string poco "deviceType" fun v D => { D with deviceType := v },
    FieldFromJson.string poco "endPoint" fun v D => { D with endPoint := v },
    FieldFromJson.uint64 poco "lastUpdate" fun v D => { D with lastUpdate := v },
    FieldFromJson.string poco "status" fun v D => { D with status := v }]

/-- The steps of `RevisionHistoryEntry::to_json`. -/
def RevisionHistoryEntry.writers : List (FieldWriter RevisionHistoryEntry) := [
  string "id" RevisionHistoryEntry.id,
  string "serialNumber" RevisionHistoryEntry.serialNumber,
  string "fromRelease" RevisionHistoryEntry.fromRelease,
  string "toRelease" RevisionHistoryEntry.toRelease,
  string "commandUUID" RevisionHistoryEntry.commandUUID,
  string "revisionId" RevisionHistoryEntry.revisionId,
  uint64 "upgraded" RevisionHistoryEntry.upgraded]

/-- `RevisionHistoryEntry::to_json`. -/
def RevisionHistoryEntry.toJson : RevisionHistoryEntry → JsonObject := all RevisionHistoryEntry.writers

/-- `RevisionHistoryEntry::from_json`. -/
def RevisionHistoryEntry.fromJson (poco : Poco) : FieldReader RevisionHistoryEntry :=
  FieldFromJson.all [
    FieldFromJson.string poco "id" fun v H => { H with id := v },
    FieldFromJson.string poco "serialNumber" fun v H => { H with serialNumber := v },
    FieldFromJson.string poco "fromRelease" fun v H => { H with fromRelease := v },
    FieldFromJson.string poco "toRelease" fun v H => { H with toRelease := v },
    FieldFromJson.string poco "commandUUID" fun v H => { H with commandUUID := v },
    FieldFromJson.string poco "revisionId" fun v H => { H with revisionId := v },
    FieldFromJson.uint64 poco "upgraded" fun v H => { H with upgraded := v }]

section

variable {poco : Poco} (converts : poco.Converts)

include converts

/-- A note is read back from its object, whatever was there before. -/
theorem NoteInfo.fromJson_toJson (note start : NoteInfo) :
    NoteInfo.fromJson poco (NoteInfo.toJson note) start = (true, note) := by
  apply restored_all (by decide)
  -- Every member of the record is set by one of the steps, so nothing of the start remains.
  exact .cons (restores_uint64 converts) <| .cons (restores_string converts) <|
    .cons (restores_string converts) <| .nil _

/-- A device record is read back from its object, whatever was there before. -/
theorem DeviceConnectionInformation.fromJson_toJson (D start : DeviceConnectionInformation) :
    DeviceConnectionInformation.fromJson poco (DeviceConnectionInformation.toJson D) start = (true, D) := by
  apply restored_all (by decide)
  exact .cons (restores_string converts) <| .cons (restores_string converts) <|
    .cons (restores_string converts) <| .cons (restores_string converts) <|
    .cons (restores_uint64 converts) <| .cons (restores_string converts) <| .nil _

/-- A history record is read back from its object, whatever was there before. -/
theorem RevisionHistoryEntry.fromJson_toJson (H start : RevisionHistoryEntry) :
    RevisionHistoryEntry.fromJson poco (RevisionHistoryEntry.toJson H) start = (true, H) := by
  apply restored_all (by decide)
  exact .cons (restores_string converts) <| .cons (restores_string converts) <|
    .cons (restores_string converts) <| .cons (restores_string converts) <|
    .cons (restores_string converts) <| .cons (restores_string converts) <|
    .cons (restores_uint64 converts) <| .nil _

/-- A firmware record is read back from its object, its notes behind those that were there before. -/
theorem Firmware.fromJson_toJson (F start : Firmware) :
    Firmware.fromJson poco (Firmware.toJson F) start = (true, { F with notes := start.notes ++ F.notes }) := by
  have read : FieldFromJson.all (Firmware.readers poco) (Firmware.toJson F) start =
      (true, { F with notes := start.notes ++ F.notes }) := by
    -- One reader for each writer, in the order of the source.
    apply restored_all (by decide)
    exact .cons (restores_string converts) <| .cons (restores_string converts) <|
      .cons (restores_string converts) <| .cons (restores_string converts) <|
      .cons (restores_string converts) <| .cons (restores_string converts) <|
      .cons (restores_string converts) <| .cons (restores_uint64 converts) <|
      .cons (restores_uint64 converts) <| .cons (restores_uint64 converts) <|
      .cons (restores_string converts) <| .cons (restores_string converts) <|
      .cons (restores_string converts) <| .cons (restores_string converts) <|
      .cons (restores_string converts) <| .cons (restores_bool converts) <|
      .cons (restores_vector (fun inner => NoteInfo.fromJson_toJson converts inner {})) <|
      .cons (restores_uint64 converts) <| .nil _
  rw [Firmware.fromJson, read]

end

end Fms
