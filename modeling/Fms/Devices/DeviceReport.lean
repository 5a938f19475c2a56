import Fms.Catalogue.FirmwaresLaws
import Fms.Devices.DevicesDb
import Fms.Relation.Tally
import Fms.Sql.OddQuotes

/-! `GenerateDeviceReport`: the devices counted by what is known of them and of their firmware. -/

namespace Fms

/-- `Types::CountedMap`. -/
abbrev CountedMap := Tally.Counters String

/-- `UpdateCountedMap`, whose increment is one where it is left out. -/
def updateCountedMap (M : CountedMap) (S : String) (increment : UInt64) : CountedMap :=
  Tally.add M S increment

/-- `FMSObjects::DeviceReport`. -/
structure DeviceReport where
  snapshot : UInt64 := 0
  numberOfDevices : UInt64 := 0
  oui : CountedMap := ∅
  revisions : CountedMap := ∅
  deviceTypes : CountedMap := ∅
  status : CountedMap := ∅
  endPoints : CountedMap := ∅
  usingLatest : CountedMap := ∅
  unknownFirmwares : CountedMap := ∅
  matchedRevisions : CountedMap := ∅
  totalSecondsOld : CountedMap := ∅

/-- `DeviceReport::reset`. -/
def DeviceReport.reset (now : UInt64) : DeviceReport where
  snapshot := now

/-- The first six characters of a serial number. -/
def ouiOf (serialNumber : String) : String :=
  String.ofList (serialNumber.toList.take 6)

namespace DevicesDB

/-- The part of the visitor that counts a device by itself. -/
def countDevice (Report : DeviceReport) (D : DeviceConnectionInformation) : DeviceReport :=
  { Report with
    numberOfDevices := Report.numberOfDevices + 1
    deviceTypes := updateCountedMap Report.deviceTypes D.deviceType 1
    revisions := updateCountedMap Report.revisions D.revision 1
    status := updateCountedMap Report.status D.status 1
    endPoints := updateCountedMap Report.endPoints D.endPoint 1
    oui := updateCountedMap Report.oui (ouiOf D.serialNumber) 1 }

/-- The part of the visitor that looks for the firmware of a device. -/
def countMatch (type : DBType) (c : Catalogue) (Report : DeviceReport)
    (D : DeviceConnectionInformation) : DeviceReport :=
  if (FirmwaresDB.getFirmwareByRevision type c D.revision D.deviceType).isSome then
    { Report with matchedRevisions := updateCountedMap Report.matchedRevisions D.revision 1 }
  else Report

/-- The part of the visitor that asks how old the firmware of a device is. -/
def countAge (type : DBType) (c : Catalogue) (Report : DeviceReport)
    (D : DeviceConnectionInformation) : DeviceReport :=
  match FirmwaresDB.computeFirmwareAge type c D.deviceType D.revision with
  | some age =>
    if age.latest then
      { Report with usingLatest := updateCountedMap Report.usingLatest D.revision 1 }
    else if age.age = 0 then
      { Report with unknownFirmwares := updateCountedMap Report.unknownFirmwares D.revision 1 }
    else
      { Report with
        totalSecondsOld := updateCountedMap Report.totalSecondsOld "total_seconds" age.age }
  | none => Report

/-- What `GenerateDeviceReport` does for a device. -/
def visit (type : DBType) (c : Catalogue) (Report : DeviceReport) (D : DeviceConnectionInformation) :
    DeviceReport :=
  countAge type c (countMatch type c (countDevice Report D) D) D

/-- `GenerateDeviceReport`, whose visitor never declines. -/
def generateDeviceReport (type : DBType) (c : Catalogue) (devices : DevicesTable)
    (Report : DeviceReport) : DeviceReport :=
  Orm.iterate type devices "" (fun Report D => (true, visit type c Report D)) Report

/-- The clause for the revision and the type of a device finds a row. -/
def found (type : DBType) (c : Catalogue) (D : DeviceConnectionInformation) : Bool :=
  (FirmwaresDB.getFirmwareByRevision type c D.revision D.deviceType).isSome

/-- The catalogue has a row for the revision and the type of a device. -/
def catalogued (c : Catalogue) (D : DeviceConnectionInformation) : Bool :=
  c.firmwares.rows.any fun F => decide (F.revision = D.revision) && decide (F.deviceType = D.deviceType)

/-- What a device's firmware is compared with the latest one of its type. -/
inductive Standing where
  | unknownAge
  | latest
  | unknownFirmware
  | old (seconds : UInt64)
  deriving DecidableEq, Repr

/-- Where `ComputeFirmwareAge` puts a device. -/
def standing (type : DBType) (c : Catalogue) (D : DeviceConnectionInformation) : Standing :=
  match FirmwaresDB.computeFirmwareAge type c D.deviceType D.revision with
  | some age => if age.latest then .latest else if age.age = 0 then .unknownFirmware else .old age.age
  | none => .unknownAge

/-- The age of a device whose firmware is old. -/
def Standing.seconds : Standing → UInt64
  | .old seconds => seconds
  | _ => 0

/-- The number of rows, as a counter counts them. -/
def count (condition : DeviceConnectionInformation → Bool) (rows : List DeviceConnectionInformation) :
    UInt64 :=
  UInt64.ofNat (rows.filter condition).length

/-- A report accounts for every device exactly once, as far as its firmware is not looked for by a clause. -/
structure CountsDevices (type : DBType) (c : Catalogue) (rows : List DeviceConnectionInformation)
    (report : DeviceReport) : Prop where
  devices : report.numberOfDevices = UInt64.ofNat rows.length
  deviceTypes : Tally.total report.deviceTypes = report.numberOfDevices
  revisions : Tally.total report.revisions = report.numberOfDevices
  status : Tally.total report.status = report.numberOfDevices
  endPoints : Tally.total report.endPoints = report.numberOfDevices
  oui : Tally.total report.oui = report.numberOfDevices
  usingLatest : Tally.total report.usingLatest =
    count (fun D => decide (standing type c D = .latest)) rows
  unknownFirmwares : Tally.total report.unknownFirmwares =
    count (fun D => decide (standing type c D = .unknownFirmware)) rows
  totalSecondsOld : Tally.total report.totalSecondsOld =
    Tally.weigh (fun D => (standing type c D).seconds) rows

/-- A report accounts for every device exactly once. -/
structure Conserves (type : DBType) (c : Catalogue) (rows : List DeviceConnectionInformation)
    (report : DeviceReport) : Prop extends CountsDevices type c rows report where
  matched : Tally.total report.matchedRevisions = count (catalogued c) rows

/-- The revision and the type of a device need no escaping. -/
def PlainTexts (type : DBType) (D : DeviceConnectionInformation) : Prop :=
  Sql.Plain type.dialect D.revision ∧ Sql.Plain type.dialect D.deviceType

instance (type : DBType) (D : DeviceConnectionInformation) : Decidable (PlainTexts type D) :=
  inferInstanceAs (Decidable (_ ∧ _))

/-- The revision and the type of a device are words, with an odd number of quotes in them. -/
def QuotesOpen (D : DeviceConnectionInformation) : Prop :=
  Sql.OddQuotes (D.revision ++ D.deviceType).toList

instance (D : DeviceConnectionInformation) : Decidable (QuotesOpen D) :=
  inferInstanceAs (Decidable (Sql.OddQuotes _))

variable {type : DBType} {c : Catalogue}

/-- The report is made in one pass over the rows. -/
theorem generateDeviceReport_eq (type : DBType) (c : Catalogue) (devices : DevicesTable)
    (Report : DeviceReport) :
    generateDeviceReport type c devices Report = devices.rows.foldl (visit type c) Report :=
  Orm.iterate_all rfl (Nat.le_refl _) (visit type c) Report

/-- Looking for the firmware of a device changes one map. -/
theorem countMatch_eq (Report : DeviceReport) (D : DeviceConnectionInformation) :
    countMatch type c Report D =
      { Report with
        matchedRevisions :=
          if found type c D then updateCountedMap Report.matchedRevisions D.revision 1
          else Report.matchedRevisions } := by
  unfold countMatch found
  split
  · rfl
  · rfl

/-- Asking for the age of a firmware changes one of three maps, or none. -/
theorem countAge_eq (Report : DeviceReport) (D : DeviceConnectionInformation) :
    countAge type c Report D =
      { Report with
        usingLatest :=
          if standing type c D = .latest then updateCountedMap Report.usingLatest D.revision 1
          else Report.usingLatest
        unknownFirmwares :=
          if standing type c D = .unknownFirmware then
            updateCountedMap Report.unknownFirmwares D.revision 1
          else Report.unknownFirmwares
        totalSecondsOld :=
          if (standing type c D).seconds = 0 then Report.totalSecondsOld
          else updateCountedMap Report.totalSecondsOld "total_seconds" (standing type c D).seconds } := by
  unfold countAge standing
  -- A revision without a row, the latest one, and an older one with or without an age.
  cases FirmwaresDB.computeFirmwareAge type c D.deviceType D.revision with
  | none => simp [Standing.seconds]
  | some age =>
    cases latest : age.latest with
    | true => simp [latest, Standing.seconds]
    | false =>
      by_cases none_ : age.age = 0
      · simp [latest, none_, Standing.seconds]
      · simp [latest, none_, Standing.seconds]

/-- What a device changes in a report, map by map. -/
theorem visit_eq (Report : DeviceReport) (D : DeviceConnectionInformation) :
    visit type c Report D = {
      snapshot := Report.snapshot
      numberOfDevices := Report.numberOfDevices + 1
      deviceTypes := updateCountedMap Report.deviceTypes D.deviceType 1
      revisions := updateCountedMap Report.revisions D.revision 1
      status := updateCountedMap Report.status D.status 1
      endPoints := updateCountedMap Report.endPoints D.endPoint 1
      oui := updateCountedMap Report.oui (ouiOf D.serialNumber) 1
      matchedRevisions :=
        if found type c D then updateCountedMap Report.matchedRevisions D.revision 1
        else Report.matchedRevisions
      usingLatest :=
        if standing type c D = .latest then updateCountedMap Report.usingLatest D.revision 1
        else Report.usingLatest
      unknownFirmwares :=
        if standing type c D = .unknownFirmware then
          updateCountedMap Report.unknownFirmwares D.revision 1
        else Report.unknownFirmwares
      totalSecondsOld :=
        if (standing type c D).seconds = 0 then Report.totalSecondsOld
        else updateCountedMap Report.totalSecondsOld "total_seconds" (standing type c D).seconds } := by
  rw [visit, countAge_eq, countMatch_eq]
  rfl

/-- One row adds one to the number of devices. -/
theorem numberOfDevices_foldl (rows : List DeviceConnectionInformation) (Report : DeviceReport) :
    (rows.foldl (visit type c) Report).numberOfDevices =
      Report.numberOfDevices + UInt64.ofNat rows.length := by
  -- By the rows, from any number that the report starts with.
  induction rows generalizing Report with
  | nil => simp
  | cons D rest ih =>
    rw [List.foldl_cons, ih, visit_eq, List.length_cons, UInt64.ofNat_add, UInt64.add_assoc,
      UInt64.add_comm 1]
    rfl

/-- A map that counts the devices that meet a condition adds up to their number. -/
theorem total_counted (field : DeviceReport → CountedMap) (condition : DeviceConnectionInformation → Bool)
    (keyOf : DeviceConnectionInformation → String)
    (one : ∀ Report D, field (visit type c Report D) =
      if condition D then Tally.add (field Report) (keyOf D) 1 else field Report)
    {Report : DeviceReport} (fresh : field Report = ∅) (rows : List DeviceConnectionInformation) :
    Tally.total (field (rows.foldl (visit type c) Report)) = count condition rows := by
  -- What the map adds up to is one for every row that meets the condition.
  rw [Tally.foldl_eq_tally (visit type c) field condition keyOf (fun _ => 1) one, fresh,
    Tally.total_tally, Tally.total_empty, UInt64.zero_add, Tally.weigh_one, count]

/-- The ages of the old firmwares add up under one key. -/
theorem total_seconds {Report : DeviceReport} (fresh : Report.totalSecondsOld = ∅)
    (rows : List DeviceConnectionInformation) :
    Tally.total (rows.foldl (visit type c) Report).totalSecondsOld =
      Tally.weigh (fun D => (standing type c D).seconds) rows := by
  have one (Report : DeviceReport) (D : DeviceConnectionInformation) :
      (visit type c Report D).totalSecondsOld =
        if decide ((standing type c D).seconds ≠ 0) then
          Tally.add Report.totalSecondsOld "total_seconds" (standing type c D).seconds
        else Report.totalSecondsOld := by
    rw [visit_eq]
    by_cases none_ : (standing type c D).seconds = 0
    · simp [none_]
    · simp [none_, updateCountedMap]
  rw [Tally.foldl_eq_tally (visit type c) DeviceReport.totalSecondsOld _ (fun _ => "total_seconds") _
    one, fresh, Tally.total_tally, Tally.total_empty, UInt64.zero_add]
  -- A device that adds nothing has no seconds.
  exact Tally.weigh_filter _ _ (fun D none_ => by simpa using none_) rows

/-- All rows are counted when there is no condition. -/
theorem count_true (rows : List DeviceConnectionInformation) :
    count (fun _ => true) rows = UInt64.ofNat rows.length := by
  simp [count]

/-- The rows that meet a condition meet another one or not. -/
theorem count_split (left right : DeviceConnectionInformation → Bool)
    (rows : List DeviceConnectionInformation) :
    count left rows =
      count (fun D => left D && right D) rows + count (fun D => left D && !right D) rows := by
  unfold count
  rw [← UInt64.ofNat_add]
  congr 1
  -- Each row that meets the first condition is counted in one of the two places.
  induction rows with
  | nil => rfl
  | cons D rest ih =>
    simp only [List.filter_cons]
    cases left D with
    | false => simpa using ih
    | true =>
      cases right D with
      | true =>
        simp only [Bool.and_self, Bool.not_true, Bool.and_false, if_true, List.length_cons,
          Bool.false_eq_true, if_false]
        omega
      | false =>
        simp only [Bool.and_false, Bool.not_false, Bool.and_self, if_true, List.length_cons,
          Bool.false_eq_true, if_false]
        omega

/-- For values that need no escaping the clause finds exactly the devices with a row. -/
theorem found_eq_catalogued {D : DeviceConnectionInformation}
    (plainRevision : Sql.Plain type.dialect D.revision)
    (plainType : Sql.Plain type.dialect D.deviceType) : found type c D = catalogued c D := by
  -- The clause is read as the comparison it spells, with nothing in it taken for syntax.
  rw [found, FirmwaresDB.getFirmwareByRevision_eq plainRevision plainType, Bool.eq_iff_iff,
    List.find?_isSome]
  simp [catalogued]

/-- A literal left open makes the statement one that no product accepts, and nothing is found. -/
theorem not_found_of_quotesOpen {D : DeviceConnectionInformation} (open_ : QuotesOpen D) :
    found type c D = false := by
  have odd : Sql.OddQuotes (FirmwaresDB.revisionClause D.revision D.deviceType).toList := by
    obtain ⟨quiet, odd⟩ := open_
    rw [String.toList_append, List.all_append, Bool.and_eq_true] at quiet
    rw [String.toList_append, List.count_append] at odd
    -- The clause adds four quotes.
    have front : " Revision='".toList.all Sql.isQuiet = true ∧ " Revision='".toList.count '\'' = 1 := by decide
    have middle : "' and DeviceType='".toList.all Sql.isQuiet = true ∧
        "' and DeviceType='".toList.count '\'' = 2 := by decide
    have back : "' ".toList.all Sql.isQuiet = true ∧ "' ".toList.count '\'' = 1 := by decide
    refine ⟨?_, ?_⟩
    · simp only [FirmwaresDB.revisionClause, String.toList_append, List.all_append, front.1, middle.1, back.1, quiet,
        Bool.and_self]
    · simp only [FirmwaresDB.revisionClause, String.toList_append, List.count_append, front.2, middle.2, back.2]
      omega
  have refused : Sql.whereClause type.dialect firmwaresSchema.columns
      (FirmwaresDB.revisionClause D.revision D.deviceType) = none := by
    rw [Sql.whereClause, Sql.lex_oddQuotes odd]
    rfl
  have begun : FirmwaresDB.revisionClause D.revision D.deviceType ≠ "" := by
    intro empty
    rw [empty] at odd
    exact absurd odd (by decide)
  simp [found, FirmwaresDB.getFirmwareByRevision, Orm.getRecords, Orm.matching, begun, refused]

/-- Among devices whose texts are plain or leave a literal open, what is missed are the rows of the latter. -/
theorem count_found_eq_iff {rows : List DeviceConnectionInformation}
    (known : ∀ D ∈ rows, PlainTexts type D ∨ QuotesOpen D) :
    count (found type c) rows = count (catalogued c) rows ↔
      count (fun D => catalogued c D && !decide (PlainTexts type D)) rows = 0 := by
  have plain : count (found type c) rows = count (fun D => catalogued c D && decide (PlainTexts type D)) rows := by
    unfold count
    refine congrArg (fun found : List DeviceConnectionInformation => UInt64.ofNat found.length) ?_
    refine List.filter_congr fun D member => ?_
    by_cases texts : PlainTexts type D
    · rw [found_eq_catalogued texts.1 texts.2, decide_eq_true texts, Bool.and_true]
    · rw [not_found_of_quotesOpen ((known D member).resolve_left texts), decide_eq_false texts, Bool.and_false]
  rw [plain, count_split (catalogued c) fun D => decide (PlainTexts type D)]
  -- What the devices with plain texts add is on both sides.
  constructor
  · intro same
    exact (UInt64.add_right_inj _).mp (same.symm.trans (UInt64.add_zero _).symm)
  · intro none_
    rw [none_, UInt64.add_zero]

/-- Whatever the clauses find, every other map of a report counts each device once. -/
theorem countsDevices (type : DBType) (c : Catalogue) (rows : List DeviceConnectionInformation) (now : UInt64) :
    CountsDevices type c rows (rows.foldl (visit type c) (.reset now)) := by
  have number : (rows.foldl (visit type c) (.reset now)).numberOfDevices = UInt64.ofNat rows.length := by
    rw [numberOfDevices_foldl]
    exact UInt64.zero_add _
  -- A map that counts every device adds up to their number.
  have all (field : DeviceReport → CountedMap) (keyOf : DeviceConnectionInformation → String)
      (one : ∀ Report D, field (visit type c Report D) = Tally.add (field Report) (keyOf D) 1)
      (fresh : field (.reset now) = ∅) :
      Tally.total (field (rows.foldl (visit type c) (.reset now))) =
        (rows.foldl (visit type c) (.reset now)).numberOfDevices := by
    rw [number, total_counted field (fun _ => true) keyOf (by simpa using one) fresh, count_true]
  refine ⟨number, ?_, ?_, ?_, ?_, ?_, ?_, ?_, ?_⟩
  · exact all DeviceReport.deviceTypes DeviceConnectionInformation.deviceType
      (fun Report D => congrArg DeviceReport.deviceTypes (visit_eq Report D)) rfl
  · exact all DeviceReport.revisions DeviceConnectionInformation.revision
      (fun Report D => congrArg DeviceReport.revisions (visit_eq Report D)) rfl
  · exact all DeviceReport.status DeviceConnectionInformation.status
      (fun Report D => congrArg DeviceReport.status (visit_eq Report D)) rfl
  · exact all DeviceReport.endPoints DeviceConnectionInformation.endPoint
      (fun Report D => congrArg DeviceReport.endPoints (visit_eq Report D)) rfl
  · exact all DeviceReport.oui (fun D => ouiOf D.serialNumber)
      (fun Report D => congrArg DeviceReport.oui (visit_eq Report D)) rfl
  · -- The devices on the latest image are those whose age says so, and so on.
    refine total_counted DeviceReport.usingLatest _ DeviceConnectionInformation.revision ?_ rfl _
    intro Report D
    simpa [updateCountedMap] using congrArg DeviceReport.usingLatest (visit_eq Report D)
  · refine total_counted DeviceReport.unknownFirmwares _ DeviceConnectionInformation.revision ?_ rfl _
    intro Report D
    simpa [updateCountedMap] using congrArg DeviceReport.unknownFirmwares (visit_eq Report D)
  · exact total_seconds rfl rows

/--
Every row is visited once and in order, and every map but one counts each device once, whatever the clauses find.

The report accounts for the devices with a row of the catalogue too if all texts are plain. Where some are not,
but leave a literal open, it does so exactly when no device with a row has such a text.
-/
theorem conserves_iff_cataloguedPlain (type : DBType) (c : Catalogue) (devices : DevicesTable)
    (now : UInt64) :
    Orm.iterate type devices "" (fun seen D => (true, seen ++ [D])) [] = devices.rows ∧
      CountsDevices type c devices.rows (generateDeviceReport type c devices (.reset now)) ∧
      ((∀ D ∈ devices.rows, PlainTexts type D) →
        Conserves type c devices.rows (generateDeviceReport type c devices (.reset now))) ∧
      ((∀ D ∈ devices.rows, PlainTexts type D ∨ QuotesOpen D) →
        (Conserves type c devices.rows (generateDeviceReport type c devices (.reset now)) ↔
          count (fun D => catalogued c D && !decide (PlainTexts type D)) devices.rows = 0)) := by
  have counts : CountsDevices type c devices.rows (generateDeviceReport type c devices (.reset now)) := by
    rw [generateDeviceReport_eq]
    exact countsDevices type c devices.rows now
  have matched : Tally.total (generateDeviceReport type c devices (.reset now)).matchedRevisions =
      count (found type c) devices.rows := by
    rw [generateDeviceReport_eq]
    refine total_counted DeviceReport.matchedRevisions (found type c)
      DeviceConnectionInformation.revision ?_ rfl devices.rows
    exact fun Report D => congrArg DeviceReport.matchedRevisions (visit_eq Report D)
  have exact_ (known : ∀ D ∈ devices.rows, PlainTexts type D ∨ QuotesOpen D) :
      Conserves type c devices.rows (generateDeviceReport type c devices (.reset now)) ↔
        count (fun D => catalogued c D && !decide (PlainTexts type D)) devices.rows = 0 := by
    rw [← count_found_eq_iff known, ← matched]
    exact ⟨fun conserves => conserves.matched, fun same => ⟨counts, same⟩⟩
  refine ⟨?_, counts, fun plain => ?_, exact_⟩
  · rw [Orm.iterate_all rfl (Nat.le_refl _) (fun seen D => seen ++ [D]) [],
      List.foldl_append_eq_append, List.nil_append, ← List.flatMap_def, List.flatMap_singleton']
  · -- No device is left that could be missed.
    refine (exact_ fun D member => .inl (plain D member)).mpr ?_
    have nobody : devices.rows.filter (fun D => catalogued c D && !decide (PlainTexts type D)) = [] :=
      List.filter_eq_nil_iff.mpr fun D member => by simp [plain D member]
    rw [count, nobody]
    rfl

/-- A device whose revision has a quote in it, and the row of the catalogue for it. -/
def quotedDevice : DeviceConnectionInformation where
  serialNumber := "903cb3000001"
  revision := "r'1"
  deviceType := "eap101"

/-- The row of the catalogue for the device. -/
def quotedFirmware : Firmware where
  id := "f1"
  revision := "r'1"
  deviceType := "eap101"

/-- A device of the catalogue, and one with a quote in its revision and without a row. -/
def mixedDevices : DevicesTable where
  rows := [{ serialNumber := "903cb3000002", revision := "r1", deviceType := "eap101" }, quotedDevice]
  distinct := by decide

/-- A device with a quote in its revision does no harm where the catalogue has no row for it. -/
theorem conserves_without_row :
    Conserves .sqlite
      { firmwares := KeyedTable.single { id := "f1", revision := "r1", deviceType := "eap101" } }
      mixedDevices.rows
      (generateDeviceReport .sqlite
        { firmwares := KeyedTable.single { id := "f1", revision := "r1", deviceType := "eap101" } }
        mixedDevices (.reset 0)) :=
  ((conserves_iff_cataloguedPlain .sqlite _ mixedDevices 0).2.2.2 (by decide +kernel)).mpr (by decide +kernel)

/-- A device whose revision has a quote in it has a row, and is not counted as having one. -/
theorem quoted_revision_not_matched :
    ¬ ∀ (type : DBType) (c : Catalogue) (devices : DevicesTable) (now : UInt64),
      Conserves type c devices.rows (generateDeviceReport type c devices (.reset now)) := by
  -- The clause puts the revision between quotes without doubling the one in it.
  intro conserves
  have matched := (conserves .sqlite { firmwares := KeyedTable.single quotedFirmware }
    (KeyedTable.single quotedDevice) 0).matched
  exact absurd matched (by decide +kernel)

end DevicesDB

end Fms
