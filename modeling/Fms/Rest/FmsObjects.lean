import Fms.Devices.CurrentFirmwares
import Fms.Devices.DeviceInformation
import Fms.Devices.DeviceReport
import Fms.Rest.FirmwaresHandler

/-! `FMSObjects`: the documents that requests about devices are answered with, and what a client reads in them. -/

namespace Fms

open FieldToJson

/-- `FirmwareAgeDetails::from_json`. -/
def FirmwaresDB.FirmwareAgeDetails.fromJson (poco : Poco) : FieldReader FirmwareAgeDetails :=
  FieldFromJson.all [
    FieldFromJson.string poco "latestId" fun v A => { A with latestId := v },
    FieldFromJson.string poco "image" fun v A => { A with image := v },
    FieldFromJson.uint64 poco "imageDate" fun v A => { A with imageDate := v },
    FieldFromJson.string poco "revision" fun v A => { A with revision := v },
    FieldFromJson.string poco "uri" fun v A => { A with uri := v },
    FieldFromJson.uint64 poco "age" fun v A => { A with age := v },
    FieldFromJson.bool poco "latest" fun v A => { A with latest := v }]

/-- `FMSObjects::RevisionHistoryEntryList`. -/
structure RevisionHistoryEntryList where
  history : List RevisionHistoryEntry := []
  deriving DecidableEq, Repr

/-- `RevisionHistoryEntryList::to_json`. -/
def RevisionHistoryEntryList.toJson : RevisionHistoryEntryList → JsonObject := all [
  vector "deviceTypes" RevisionHistoryEntry.toJson RevisionHistoryEntryList.history]

/-- `RevisionHistoryEntryList::from_json`. -/
def RevisionHistoryEntryList.fromJson (poco : Poco) : FieldReader RevisionHistoryEntryList :=
  FieldFromJson.all [
    FieldFromJson.vector "deviceTypes" {} (RevisionHistoryEntry.fromJson poco) RevisionHistoryEntryList.history
      fun v L => { L with history := v }]

/-- `DeviceInformation::to_json`. -/
def DeviceInformation.toJson : DeviceInformation → JsonObject := all [
  string "serialNumber" DeviceInformation.serialNumber,
  object "history" RevisionHistoryEntryList.toJson fun DI => ⟨DI.history⟩,
  string "currentFirmware" DeviceInformation.currentFirmware,
  uint64 "currentFirmwareDate" DeviceInformation.currentFirmwareDate,
  string "latestFirmware" DeviceInformation.latestFirmware,
  uint64 "latestFirmwareDate" DeviceInformation.latestFirmwareDate,
  bool "latestFirmwareAvailable" DeviceInformation.latestFirmwareAvailable,
  string "latestFirmwareURI" DeviceInformation.latestFirmwareURI]

/-- `DeviceInformation::from_json`. -/
def DeviceInformation.fromJson (poco : Poco) : FieldReader DeviceInformation :=
  FieldFromJson.all [
    FieldFromJson.string poco "serialNumber" fun v DI => { DI with serialNumber := v },
    FieldFromJson.object "history" (RevisionHistoryEntryList.fromJson poco) (fun DI => ⟨DI.history⟩)
      fun v DI => { DI with history := v.history },
    FieldFromJson.string poco "currentFirmware" fun v DI => { DI with currentFirmware := v },
    FieldFromJson.uint64 poco "currentFirmwareDate" fun v DI => { DI with currentFirmwareDate := v },
    FieldFromJson.string poco "latestFirmware" fun v DI => { DI with latestFirmware := v },
    FieldFromJson.uint64 poco "latestFirmwareDate" fun v DI => { DI with latestFirmwareDate := v },
    FieldFromJson.bool poco "latestFirmwareAvailable" fun v DI => { DI with latestFirmwareAvailable := v },
    FieldFromJson.string poco "latestFirmwareURI" fun v DI => { DI with latestFirmwareURI := v }]

/-- `DeviceCurrentInfo::to_json`. -/
def DeviceCurrentInfo.toJson : DeviceCurrentInfo → JsonObject := all [
  string "serialNumber" DeviceCurrentInfo.serialNumber,
  string "revision" DeviceCurrentInfo.revision,
  uint64 "upgraded" DeviceCurrentInfo.upgraded]

/-- `DeviceCurrentInfo::from_json`. -/
def DeviceCurrentInfo.fromJson (poco : Poco) : FieldReader DeviceCurrentInfo :=
  FieldFromJson.all [
    FieldFromJson.string poco "serialNumber" fun v I => { I with serialNumber := v },
    FieldFromJson.string poco "revision" fun v I => { I with revision := v },
    FieldFromJson.uint64 poco "upgraded" fun v I => { I with upgraded := v }]

/-- `FMSObjects::DeviceCurrentInfoList`. -/
structure DeviceCurrentInfoList where
  devices : List DeviceCurrentInfo := []
  deriving DecidableEq, Repr

/-- `DeviceCurrentInfoList::to_json`. -/
def DeviceCurrentInfoList.toJson : DeviceCurrentInfoList → JsonObject := all [
  vector "devices" DeviceCurrentInfo.toJson DeviceCurrentInfoList.devices]

/-- `DeviceCurrentInfoList::from_json`. -/
def DeviceCurrentInfoList.fromJson (poco : Poco) : FieldReader DeviceCurrentInfoList :=
  FieldFromJson.all [
    FieldFromJson.vector "devices" ⟨"", "", 0⟩ (DeviceCurrentInfo.fromJson poco) DeviceCurrentInfoList.devices
      fun v L => { L with devices := v }]

/-- The object of a counter. -/
def counterJson (counter : String × UInt64) : JsonObject :=
  (JsonObject.set [] "tag" (.string counter.1)).set "value" (.int counter.2.toNat)

/-- `field_to_json` for `Types::CountedMap`, in the order of the map. -/
def FieldToJson.countedMap {τ : Type} (name : String) (load : τ → CountedMap) : FieldWriter τ :=
  ⟨name, fun record => .array (array counterJson (load record).toList)⟩

/-- The steps of `DeviceReport::to_json`. -/
def DeviceReport.writers : List (FieldWriter DeviceReport) := [
  countedMap "ouis" DeviceReport.oui,
  countedMap "revisions" DeviceReport.revisions,
  countedMap "deviceTypes" DeviceReport.deviceTypes,
  countedMap "status" DeviceReport.status,
  countedMap "endPoints" DeviceReport.endPoints,
  countedMap "usingLatest" DeviceReport.usingLatest,
  countedMap "unknownFirmwares" DeviceReport.unknownFirmwares,
  countedMap "matchedRevisions" DeviceReport.matchedRevisions,
  uint64 "snapshot" DeviceReport.snapshot,
  uint64 "numberOfDevices" DeviceReport.numberOfDevices,
  countedMap "totalSecondsOld" DeviceReport.totalSecondsOld]

/-- `DeviceReport::to_json`. -/
def DeviceReport.toJson : DeviceReport → JsonObject := all DeviceReport.writers

section

variable {poco : Poco} (converts : poco.Converts)

include converts

/-- The details of an age are read back from their object, whatever was there before. -/
theorem FirmwaresDB.FirmwareAgeDetails.fromJson_toJson (A start : FirmwareAgeDetails) :
    FirmwareAgeDetails.fromJson poco A.toJson start = (true, A) := by
  apply restored_all (by decide)
  exact .cons (restores_string converts) <| .cons (restores_string converts) <|
    .cons (restores_uint64 converts) <| .cons (restores_string converts) <|
    .cons (restores_string converts) <| .cons (restores_uint64 converts) <|
    .cons (restores_bool converts) <| .nil _

/-- A list of history entries is read back behind what is there. -/
theorem RevisionHistoryEntryList.fromJson_toJson (L start : RevisionHistoryEntryList) :
    RevisionHistoryEntryList.fromJson poco L.toJson start = (true, ⟨start.history ++ L.history⟩) := by
  apply restored_all (by decide)
  exact .cons (restores_vector fun H => RevisionHistoryEntry.fromJson_toJson converts H {}) <| .nil _

/-- What is known of a device is read back from its object, the history behind what is there. -/
theorem DeviceInformation.fromJson_toJson (DI start : DeviceInformation) :
    DeviceInformation.fromJson poco DI.toJson start = (true, { DI with history := start.history ++ DI.history }) := by
  apply restored_all (by decide)
  -- The history is an object of its own, whose reader appends.
  exact .cons (restores_string converts) <|
    .cons (restores_object (RevisionHistoryEntryList.fromJson_toJson converts _ _)) <|
    .cons (restores_string converts) <| .cons (restores_uint64 converts) <|
    .cons (restores_string converts) <| .cons (restores_uint64 converts) <|
    .cons (restores_bool converts) <| .cons (restores_string converts) <| .nil _

/-- The current firmware of a device is read back from its object, whatever was there before. -/
theorem DeviceCurrentInfo.fromJson_toJson (I start : DeviceCurrentInfo) :
    DeviceCurrentInfo.fromJson poco I.toJson start = (true, I) := by
  apply restored_all (by decide)
  exact .cons (restores_string converts) <| .cons (restores_string converts) <|
    .cons (restores_uint64 converts) <| .nil _

/-- A list of current firmwares is read back behind what is there. -/
theorem DeviceCurrentInfoList.fromJson_toJson (L start : DeviceCurrentInfoList) :
    DeviceCurrentInfoList.fromJson poco L.toJson start = (true, ⟨start.devices ++ L.devices⟩) := by
  apply restored_all (by decide)
  exact .cons (restores_vector fun I => DeviceCurrentInfo.fromJson_toJson converts I ⟨"", "", 0⟩) <| .nil _

end

/-- A counter can be told from its object. -/
theorem counterJson_injective : Function.Injective counterJson := by
  intro left right same
  have tag := congrArg (fun obj : JsonObject => obj.get "tag") same
  have value := congrArg (fun obj : JsonObject => obj.get "value") same
  simp only [counterJson, JsonObject.get_set, if_true, if_false, String.reduceEq, Var.string.injEq,
    Var.int.injEq] at tag value
  exact Prod.ext tag (UInt64.toNat_inj.mp (by omega))

/-- A map of counters can be told from the array it is written to. -/
theorem countedMap_injective {left right : CountedMap}
    (same : Var.array (array counterJson left.toList) = .array (array counterJson right.toList)) : left = right := by
  have lists : left.toList = right.toList := by
    refine List.map_injective_iff.mpr (fun first second equal => ?_) (Var.array.inj same)
    exact counterJson_injective (Var.object.inj equal)
  exact Std.ExtTreeMap.toList_inj.mp lists

/-- Records with one document have the same value for every step that sets a member of its own. -/
theorem FieldToJson.value_of_same {τ : Type} {fields : List (FieldWriter τ)} {left right : τ}
    (same : all fields left = all fields right) (distinct : (fields.map FieldWriter.name).Nodup) :
    ∀ field ∈ fields, field.value left = field.value right := by
  intro field member
  have once := List.count_eq_one_of_mem distinct (List.mem_map_of_mem member)
  -- The document has the value of either record for the member.
  calc field.value left
      = (all fields left).get field.name := (written member once).2.symm
    _ = (all fields right).get field.name := by rw [same]
    _ = field.value right := (written member once).2

/-- A report can be told from its document. -/
theorem DeviceReport.toJson_injective : Function.Injective DeviceReport.toJson := by
  intro left right same
  -- One value for each written field; every written form is injective in its value.
  have values := FieldToJson.value_of_same same (by decide)
  simp only [DeviceReport.writers, List.forall_mem_cons, countedMap, uint64] at values
  obtain ⟨oui, revisions, deviceTypes, status, endPoints, usingLatest, unknownFirmwares, matchedRevisions, snapshot,
    numberOfDevices, totalSecondsOld, -⟩ := values
  have number {left right : UInt64} (equal : Var.int left.toNat = .int right.toNat) : left = right :=
    UInt64.toNat_inj.mp (Int.ofNat_inj.mp (Var.int.inj equal))
  cases left
  cases right
  simp only [DeviceReport.mk.injEq]
  exact ⟨number snapshot, number numberOfDevices, countedMap_injective oui, countedMap_injective revisions,
    countedMap_injective deviceTypes, countedMap_injective status, countedMap_injective endPoints,
    countedMap_injective usingLatest, countedMap_injective unknownFirmwares, countedMap_injective matchedRevisions,
    countedMap_injective totalSecondsOld⟩

/-- A document is read back into any fresh record, or any record whose list is empty. -/
def ReadsBack {τ : Type} (toJson : τ → JsonObject) (fromJson : FieldReader τ) (Fresh : τ → Prop) : Prop :=
  ∀ record start, Fresh start → fromJson (toJson record) start = (true, record)

/--
The documents about devices carry all that they are made from.

Ages, histories, current firmwares and what is known of a device are read back into records without entries, and no two
reports have one document.
-/
theorem device_documents_carry {poco : Poco} (converts : poco.Converts) :
    ReadsBack FirmwaresDB.FirmwareAgeDetails.toJson (FirmwaresDB.FirmwareAgeDetails.fromJson poco) (fun _ => True) ∧
      ReadsBack RevisionHistoryEntryList.toJson (RevisionHistoryEntryList.fromJson poco) (fun start =>
        start.history = []) ∧
      ReadsBack DeviceInformation.toJson (DeviceInformation.fromJson poco) (fun start => start.history = []) ∧
      ReadsBack DeviceCurrentInfoList.toJson (DeviceCurrentInfoList.fromJson poco) (fun start =>
        start.devices = []) ∧
      Function.Injective DeviceReport.toJson := by
  refine ⟨fun A start _ => FirmwaresDB.FirmwareAgeDetails.fromJson_toJson converts A start, fun L start empty => ?_,
    fun DI start empty => ?_, fun L start empty => ?_, DeviceReport.toJson_injective⟩
  · rw [RevisionHistoryEntryList.fromJson_toJson converts L start, empty, List.nil_append]
  · rw [DeviceInformation.fromJson_toJson converts DI start, empty, List.nil_append]
  · rw [DeviceCurrentInfoList.fromJson_toJson converts L start, empty, List.nil_append]

/-- The library on no documents, and the age of a device that is a day behind. -/
theorem device_documents_carry_aged :
    FirmwaresDB.FirmwareAgeDetails.fromJson (.onDocuments [])
        (FirmwaresDB.FirmwareAgeDetails.toJson ⟨"f2", "r2-upgrade.bin", 86401, "r2", "https://bucket/r2", 86400, false⟩)
        ⟨"", "", 0, "", "", 0, true⟩ =
      (true, ⟨"f2", "r2-upgrade.bin", 86401, "r2", "https://bucket/r2", 86400, false⟩) :=
  (device_documents_carry (Poco.converts_onDocuments [])).1 _ _ trivial

end Fms
