import Fms.Catalogue.Ages
import Fms.Devices.DevicesDb
import Fms.Framework.SerialNumbers

/-! What a request for the information about a device says of its firmware. -/

namespace Fms

/-- `FMSObjects::DeviceInformation`. -/
structure DeviceInformation where
  serialNumber : String
  history : List RevisionHistoryEntry
  currentFirmware : String
  currentFirmwareDate : UInt64
  latestFirmware : String
  latestFirmwareDate : UInt64
  latestFirmwareAvailable : Bool
  latestFirmwareURI : String
  deriving DecidableEq, Repr

namespace DeviceInformation

/-- `RESTAPI_deviceInformation_handler::DoGet`: the answer, or none for a bad request. -/
def doGet (type : DBType) (c : Catalogue) (s : DeviceTables) (serialNumber : String) :
    Option DeviceInformation :=
  if serialNumber = "" || !Utils.validSerialNumber serialNumber then none
  else
    let history := (HistoryDB.getHistory type s.history serialNumber 0 100).getD []
    -- No result of these lookups is checked: a failed one leaves its record as it was created.
    let DCI := (DevicesDB.getDevice s.devices serialNumber).getD {}
    let LFE := (c.latestFirmwareCache.findLatestFirmware DCI.deviceType).getD ⟨"", 0, ""⟩
    let latest := (FirmwaresDB.getFirmware c LFE.id).getD {}
    let FI := (FirmwaresDB.getFirmwareByRevision type c DCI.revision DCI.deviceType).getD {}
    some {
      serialNumber := serialNumber
      history := history
      currentFirmware := DCI.revision
      currentFirmwareDate := FI.imageDate
      latestFirmware := LFE.revision
      latestFirmwareDate := LFE.timeStamp
      latestFirmwareAvailable := LFE.revision ≠ DCI.revision
      latestFirmwareURI := latest.uri }

/-- The revision of the newest entry of a device type in the cache. -/
def cachedRevision (c : Catalogue) (deviceType : String) : Option String :=
  (c.latestFirmwareCache.findLatestFirmware deviceType).map LatestFirmwareCacheEntry.revision

/-- The revision of the stored firmware that the newest entry of a device type points to. -/
def latestRevision (c : Catalogue) (deviceType : String) : Option String := do
  let newest ← c.latestFirmwareCache.findLatestFirmware deviceType
  (FirmwaresDB.getFirmware c newest.id).map Firmware.revision

/-- A firmware is available for a device: there is a latest one, and the device has another. -/
def Available (latest : Option String) (revision : String) : Prop :=
  ∃ other, latest = some other ∧ other ≠ revision

/--
The answer for a device agrees with the other two notions of being up to date.

Its flag says whether a firmware is available, and an age that can be computed agrees with both.
-/
def Agrees (type : DBType) (c : Catalogue) (D : DeviceConnectionInformation)
    (info : DeviceInformation) (latest : Option String) : Prop :=
  (info.latestFirmwareAvailable = true ↔ Available latest D.revision) ∧
    ∀ details, FirmwaresDB.computeFirmwareAge type c D.deviceType D.revision = some details →
      details.latest = c.latestFirmwareCache.isLatest D.deviceType D.revision ∧
        details.latest = !info.latestFirmwareAvailable

variable {type : DBType} {c : Catalogue} {s : DeviceTables} {D : DeviceConnectionInformation}
  {serialNumber : String} {info : DeviceInformation}

/-- For a stored device the flag compares its revision with the cached one, or with no text. -/
theorem available_doGet (answered : doGet type c s serialNumber = some info)
    (stored : DevicesDB.getDevice s.devices serialNumber = some D) :
    info.latestFirmwareAvailable =
      decide ((cachedRevision c D.deviceType).getD "" ≠ D.revision) := by
  unfold doGet at answered
  split at answered
  · contradiction
  · -- The default entry has an empty revision, which is what a failed lookup leaves.
    simp only [stored, Option.getD_some, Option.some.injEq] at answered
    subst answered
    unfold cachedRevision
    cases c.latestFirmwareCache.findLatestFirmware D.deviceType <;> rfl

/-- The comparison with a default is right exactly when there is no difference or no default. -/
theorem available_iff (latest : Option String) (compared revision : String)
    (same : ∀ other, latest = some other → other = compared) :
    ((decide (compared ≠ revision) = true) ↔ Available latest revision) ↔
      (latest.isSome = true ∨ compared = revision) := by
  -- Without a latest firmware nothing is available, but the device is compared all the same.
  cases latest with
  | none => simp [Available]
  | some other =>
    have equal := same other rfl
    subst equal
    simp [Available]

/-- An age is computed only from a stored row that carries the revision of the entry. -/
theorem age_agrees (dated : FirmwaresDB.Dated c) {deviceType revision : String}
    {details : FirmwaresDB.FirmwareAgeDetails}
    (computed : FirmwaresDB.computeFirmwareAge type c deviceType revision = some details) :
    details.latest = c.latestFirmwareCache.isLatest deviceType revision ∧
      details.latest = !decide ((cachedRevision c deviceType).getD "" ≠ revision) := by
  obtain ⟨newest, latest, cached, stored, named, rfl⟩ :=
    FirmwaresDB.computeFirmwareAge_eq_some computed
  obtain ⟨_, entry⟩ := dated.names deviceType newest cached (FirmwaresDB.addition latest)
    (List.mem_map_of_mem stored) named
  have alike : latest.revision = newest.revision :=
    congrArg LatestFirmwareCacheEntry.revision entry
  have found : c.latestFirmwareCache.cache[deviceType]? = some newest := cached
  -- Both notions compare the revision of the device with that of the row.
  constructor
  · simp only [LatestFirmwareCache.isLatest, found, alike, eq_comm]
  · simp [cachedRevision, cached, alike, eq_comm]

/-- A stored row behind the newest entry of a type carries the revision of the entry. -/
theorem latestRevision_eq_some (dated : FirmwaresDB.Dated c) {deviceType other : String}
    (latest : latestRevision c deviceType = some other) :
    cachedRevision c deviceType = some other := by
  simp only [latestRevision, Option.bind_eq_bind, Option.bind_eq_some_iff,
    Option.map_eq_some_iff] at latest
  obtain ⟨newest, cached, row, fetched, rfl⟩ := latest
  obtain ⟨stored, named⟩ := KeyedTable.lookup_eq_some.mp fetched
  -- An id in the cache that is also in the table belongs to the row the entry was made from.
  obtain ⟨_, entry⟩ := dated.names deviceType newest cached (FirmwaresDB.addition row)
    (List.mem_map_of_mem stored) named
  have alike : row.revision = newest.revision := congrArg LatestFirmwareCacheEntry.revision entry
  rw [cachedRevision, cached, Option.map_some, alike]

/--
In every state of a run the answer for a stored device agrees with the other notions exactly when
there is a latest firmware to compare with, or the device has the revision the answer compares with.

This holds whether the latest firmware is the newest entry of the cache or the stored row behind it.
-/
theorem agrees_iff (type : DBType) (start : Catalogue) (ops : List FirmwaresDB.Operation)
    (fresh : FirmwaresDB.FreshIds start ops) :
    ∀ c ∈ Transition.states (FirmwaresDB.operate type) (FirmwaresDB.restart type start) ops,
      ∀ (s : DeviceTables) (serialNumber : String) (D : DeviceConnectionInformation)
        (info : DeviceInformation) (latest : Option String),
      doGet type c s serialNumber = some info →
      DevicesDB.getDevice s.devices serialNumber = some D →
      (latest = latestRevision c D.deviceType ∨ latest = cachedRevision c D.deviceType) →
      (Agrees type c D info latest ↔
        latest.isSome = true ∨ (cachedRevision c D.deviceType).getD "" = D.revision) := by
  intro c member s serialNumber D info latest answered stored reading
  have dated := FirmwaresDB.dated_states (FirmwaresDB.dated_restart type start)
    (FirmwaresDB.within_restart type start) fresh c member
  -- Both readings of the latest firmware give the cached revision where they give one.
  have same : ∀ other, latest = some other → other = (cachedRevision c D.deviceType).getD "" := by
    intro other found
    have cached : cachedRevision c D.deviceType = some other := by
      rcases reading with row | entry
      · exact latestRevision_eq_some dated (row ▸ found)
      · exact entry ▸ found
    rw [cached, Option.getD_some]
  -- The ages always agree, so only the flag decides.
  have flag := available_doGet answered stored
  have ages : ∀ details,
      FirmwaresDB.computeFirmwareAge type c D.deviceType D.revision = some details →
      details.latest = c.latestFirmwareCache.isLatest D.deviceType D.revision ∧
        details.latest = !decide ((cachedRevision c D.deviceType).getD "" ≠ D.revision) :=
    fun details computed => age_agrees dated computed
  rw [Agrees, flag, and_iff_left ages]
  exact available_iff latest _ D.revision same

/-- A device with the older of the two images of its type. -/
def oldDevice : DeviceTables where
  devices := .single { serialNumber := "903cb3000001", revision := "r1", deviceType := "eap101" }

/-- The answer for a device with the older of two images agrees with the other notions. -/
theorem agrees_oldDevice :
    ∃ info, doGet .sqlite
        (FirmwaresDB.twoImages.foldl (FirmwaresDB.operate .sqlite) (FirmwaresDB.restart .sqlite {}))
        oldDevice "903cb3000001" = some info ∧
      Agrees .sqlite
        (FirmwaresDB.twoImages.foldl (FirmwaresDB.operate .sqlite) (FirmwaresDB.restart .sqlite {}))
        { serialNumber := "903cb3000001", revision := "r1", deviceType := "eap101" } info
        (some "r2") := by
  -- There is a latest firmware to compare with.
  refine ⟨⟨"903cb3000001", [], "r1", 50, "r2", 80, true, ""⟩, by decide +kernel, ?_⟩
  exact (agrees_iff .sqlite {} FirmwaresDB.twoImages (by decide +kernel) _
    (Transition.last_mem_states _ FirmwaresDB.twoImages) oldDevice "903cb3000001" _ _ (some "r2")
    (by decide +kernel) (by decide +kernel) (Or.inl (by decide +kernel))).mpr (Or.inl rfl)

/-- A device of a type without any firmware is told that one is available. -/
theorem available_without_firmware :
    ¬ ∀ (type : DBType) (start : Catalogue) (ops : List FirmwaresDB.Operation),
      FirmwaresDB.FreshIds start ops →
      ∀ c ∈ Transition.states (FirmwaresDB.operate type) (FirmwaresDB.restart type start) ops,
        ∀ (s : DeviceTables) (serialNumber : String) (D : DeviceConnectionInformation)
          (info : DeviceInformation), doGet type c s serialNumber = some info →
        DevicesDB.getDevice s.devices serialNumber = some D →
        Agrees type c D info (latestRevision c D.deviceType) ∨
          Agrees type c D info (cachedRevision c D.deviceType) := by
  intro agrees
  -- Nothing has been added, and the empty text is not the revision of the device.
  have wrong := agrees .sqlite {} [] (by decide) (FirmwaresDB.restart .sqlite {})
    (Transition.first_mem_states _ []) oldDevice "903cb3000001"
    { serialNumber := "903cb3000001", revision := "r1", deviceType := "eap101" }
    ⟨"903cb3000001", [], "r1", 0, "", 0, true, ""⟩ (by decide +kernel) (by decide +kernel)
  have noRow : latestRevision (FirmwaresDB.restart .sqlite {}) "eap101" = none := by decide +kernel
  have noEntry : cachedRevision (FirmwaresDB.restart .sqlite {}) "eap101" = none := by
    decide +kernel
  -- Neither the table nor the cache has a firmware the device could get.
  rcases wrong with ⟨flag, _⟩ | ⟨flag, _⟩
  · obtain ⟨other, found, _⟩ := flag.mp rfl
    rw [noRow] at found
    contradiction
  · obtain ⟨other, found, _⟩ := flag.mp rfl
    rw [noEntry] at found
    contradiction

end DeviceInformation

end Fms
