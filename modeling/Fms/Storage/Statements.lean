import Fms.Catalogue.FirmwaresLaws
import Fms.Devices.DevicesDb
import Fms.Sql.Splice

/-! The rows that the hand-written where clauses select, for whatever values are spliced into them. -/

namespace Fms

/-- String literals in which only the quote is special. -/
def standardDialect : Sql.Dialect := ⟨false, false⟩

/-- A clause is a condition that holds exactly for the wanted rows. -/
def SelectsExactly {ρ : Type} (schema : Schema ρ) (clause : String) (wanted : ρ → Bool) : Prop :=
  Sql.whereClause standardDialect schema.columns clause = some wanted

/-- No character ends a statement by the standard. -/
theorem uncut_standard (text : List Char) : Sql.Uncut standardDialect text := by
  intro ends
  contradiction

/-- By the standard, plain text is text without quotes. -/
theorem plain_standard_iff (text : String) : Sql.Plain standardDialect text ↔ '\'' ∉ text.toList := by
  rw [Sql.plain_iff rfl text]
  exact and_iff_left (uncut_standard text.toList)

/-- By the standard, text without quotes spells itself. -/
theorem spells_of_not_mem {text : String} (absent : '\'' ∉ text.toList) :
    Sql.Spells standardDialect text text :=
  ((plain_standard_iff text).mpr absent).spells

namespace FirmwaresDB

/-- Changing a column of a firmware row leaves its other columns as they are. -/
theorem agreeExcept_set (row : Firmware) (text : String) (latest : Bool) :
    Sql.AgreeExcept firmwaresSchema.columns "release" row { row with release := text } ∧
      Sql.AgreeExcept firmwaresSchema.columns "revision" row { row with revision := text } ∧
      Sql.AgreeExcept firmwaresSchema.columns "devicetype" row { row with deviceType := text } ∧
      Sql.AgreeExcept firmwaresSchema.columns "latest" row { row with latest := latest } := by
  refine ⟨?_, ?_, ?_, ?_⟩ <;> intro other column isColumn apart
  -- Every column is looked up; the changed one is excepted, and the others do not read it.
  all_goals
    simp only [firmwaresSchema, firmwareColumns] at isColumn
    split at isColumn
    all_goals first
      | (cases isColumn; rfl)
      | exact absurd rfl apart
      | contradiction

/-- The clause of `AddFirmware` selects the flagged rows of its type just when the type has no quote. -/
theorem latestClause_selectsExactly_iff (deviceType : String) :
    SelectsExactly firmwaresSchema (latestClause deviceType)
        (fun row => decide (row.deviceType = deviceType) && decide (row.latest = true)) ↔
      '\'' ∉ deviceType.toList := by
  -- The clause is longer than the others, so the flag has to need a comparison of its own.
  constructor
  · intro selects
    have standard : standardDialect.backslashEscapes = false := rfl
    have named : Sql.lower "deviceType" = "devicetype" := Sql.lower_ofList _
    have isColumn : firmwaresSchema.columns "devicetype" = some (.text Firmware.deviceType) := rfl
    have before : Sql.feed standardDialect .gap " deviceType='".toList =
        some ([.word "deviceType", .symbol "="], .literal []) := rfl
    have closes : "' AND Latest=true ".toList = '\'' :: ' ' :: "AND Latest=true ".toList := by
      decide
    have differs : "latest" ≠ "devicetype" := by decide
    -- The flagged row of the type is wanted, neither that of another type nor the one without a flag.
    let base : Firmware := { deviceType := deviceType, latest := true }
    obtain ⟨_, _, agree, _⟩ := agreeExcept_set base (deviceType ++ "\x00") false
    obtain ⟨_, _, _, agree'⟩ := agreeExcept_set base deviceType false
    exact (plain_standard_iff deviceType).mp (Sql.plain_of_one_other standard named isColumn
      before closes differs (by decide) selects agree rfl rfl (by simp [base]) agree'
      (by simp [base]))
  · intro absent
    have selects := latestClause_denotes (spells_of_not_mem absent)
    exact selects

/-- A clause for a column and a device type that selects the rows with both has no quote in a value. -/
theorem not_mem_of_pair {front column name value deviceType : String} {read : Firmware → String}
    (named : Sql.lower column = name) (differs : "devicetype" ≠ name)
    (isColumn : firmwaresSchema.columns name = some (.text read))
    (before : Sql.feed standardDialect .gap front.toList =
      some ([.word column, .symbol "="], .literal []))
    (short : front.length + 20 < name.length + 10 + min name.length 10 + 9)
    (selects : SelectsExactly firmwaresSchema
      (front ++ value ++ "' and DeviceType='" ++ deviceType ++ "' ")
      fun row => decide (read row = value) && decide (row.deviceType = deviceType))
    {base left : Firmware} (own : read base = value) (ownType : base.deviceType = deviceType)
    (agree : Sql.AgreeExcept firmwaresSchema.columns name base left)
    (next : read left = value ++ "\x00") :
    '\'' ∉ value.toList ∧ '\'' ∉ deviceType.toList := by
  have standard : standardDialect.backslashEscapes = false := rfl
  have named' : Sql.lower "DeviceType" = "devicetype" := Sql.lower_ofList _
  have isColumn' : firmwaresSchema.columns "devicetype" = some (.text Firmware.deviceType) := rfl
  have closes : "' and DeviceType='".toList = '\'' :: ' ' :: "and DeviceType='".toList := by
    decide
  have closes' : "' ".toList = '\'' :: ' ' :: [] := by decide
  -- The clause is too short for three comparisons that hold the two values.
  have lengths : "' and DeviceType='".length = 18 ∧ "' ".length = 2 ∧ "devicetype".length = 10 := by
    decide
  -- The row with both values is wanted, and neither row with one of them changed is.
  obtain ⟨_, _, agree', _⟩ := agreeExcept_set base (deviceType ++ "\x00") false
  have conjunction : Sql.isKeyword "and" (.word "and") = true := by
    rw [Sql.isKeyword, decide_eq_true_eq]
    exact Sql.lower_ofList _
  have plain := Sql.plain_of_two standard named isColumn before named' differs isColumn'
    conjunction closes closes' (fun _ => rfl) (by omega) selects own ownType agree next
    (by simp [own, ownType, next]) agree' rfl (by simp [own, ownType])
  exact ⟨(plain_standard_iff value).mp plain.1, (plain_standard_iff deviceType).mp plain.2⟩

/-- The clause of `GetFirmwareByName` selects the rows it is meant for just when no value has a quote. -/
theorem nameClause_selectsExactly_iff (release deviceType : String) :
    SelectsExactly firmwaresSchema (nameClause release deviceType)
        (fun row => decide (row.release = release) && decide (row.deviceType = deviceType)) ↔
      '\'' ∉ release.toList ∧ '\'' ∉ deviceType.toList := by
  constructor
  · -- What remains is where the release stands in the clause and in a row.
    intro selects
    have named : Sql.lower "release" = "release" := Sql.lower_ofList _
    have isColumn : firmwaresSchema.columns "release" = some (.text Firmware.release) := rfl
    have before : Sql.feed standardDialect .gap " release='".toList =
        some ([.word "release", .symbol "="], .literal []) := rfl
    have differs : "devicetype" ≠ "release" := by decide
    have short : " release='".length + 20 <
        "release".length + 10 + min "release".length 10 + 9 := by decide
    let base : Firmware := { release := release, deviceType := deviceType }
    obtain ⟨agree, _, _, _⟩ := agreeExcept_set base (release ++ "\x00") false
    exact not_mem_of_pair named differs isColumn before short selects rfl rfl agree rfl
  · rintro ⟨absentRelease, absentType⟩
    have selects := nameClause_denotes (spells_of_not_mem absentRelease) (spells_of_not_mem absentType)
    exact selects

/-- So does the clause of `GetFirmwareByRevision`. -/
theorem revisionClause_selectsExactly_iff (revision deviceType : String) :
    SelectsExactly firmwaresSchema (revisionClause revision deviceType)
        (fun row => decide (row.revision = revision) && decide (row.deviceType = deviceType)) ↔
      '\'' ∉ revision.toList ∧ '\'' ∉ deviceType.toList := by
  constructor
  · -- The revision stands where the release does.
    intro selects
    have named : Sql.lower "Revision" = "revision" := Sql.lower_ofList _
    have isColumn : firmwaresSchema.columns "revision" = some (.text Firmware.revision) := rfl
    have before : Sql.feed standardDialect .gap " Revision='".toList =
        some ([.word "Revision", .symbol "="], .literal []) := rfl
    have differs : "devicetype" ≠ "revision" := by decide
    have short : " Revision='".length + 20 <
        "revision".length + 10 + min "revision".length 10 + 9 := by decide
    let base : Firmware := { revision := revision, deviceType := deviceType }
    obtain ⟨_, agree, _, _⟩ := agreeExcept_set base (revision ++ "\x00") false
    exact not_mem_of_pair named differs isColumn before short selects rfl rfl agree rfl
  · rintro ⟨absentRevision, absentType⟩
    have selects :=
      revisionClause_denotes (spells_of_not_mem absentRevision) (spells_of_not_mem absentType)
    exact selects

end FirmwaresDB

namespace HistoryDB

/-- History rows with another serial number agree on their other columns. -/
theorem agreeExcept_serialNumber (row : RevisionHistoryEntry) (text : String) :
    Sql.AgreeExcept historySchema.columns "serialnumber" row { row with serialNumber := text } := by
  -- The serial number is the only column that reads it.
  intro other column isColumn apart
  simp only [historySchema, historyColumns] at isColumn
  split at isColumn
  all_goals first
    | (cases isColumn; rfl)
    | exact absurd rfl apart
    | contradiction

/--
The clause of `GetHistory` and `DeleteHistory` selects the entries of a device just when its serial number
has no quote.
-/
theorem serialClause_selectsExactly_iff (serialNumber : String) :
    SelectsExactly historySchema (serialClause serialNumber)
        (fun row => decide (row.serialNumber = serialNumber)) ↔
      '\'' ∉ serialNumber.toList := by
  constructor
  · intro selects
    have standard : standardDialect.backslashEscapes = false := rfl
    have named : Sql.lower "serialNumber" = "serialnumber" := Sql.lower_ofList _
    have isColumn : historySchema.columns "serialnumber" =
        some (.text RevisionHistoryEntry.serialNumber) := rfl
    have before : Sql.feed standardDialect .gap " serialNumber='".toList =
        some ([.word "serialNumber", .symbol "="], .literal []) := rfl
    have closes : "' ".toList = '\'' :: ' ' :: [] := by decide
    -- An entry of the device is wanted, and one of the next device is not.
    let base : RevisionHistoryEntry := { serialNumber := serialNumber }
    have agree := agreeExcept_serialNumber base (serialNumber ++ "\x00")
    exact (plain_standard_iff serialNumber).mp (Sql.plain_of_one standard named isColumn before
      closes (by decide) selects agree rfl rfl (by simp [base]))
  · intro absent
    have selects := serialClause_denotes (spells_of_not_mem absent)
    exact selects

/-- With the escaping that the history handler applies, the clause is right for every serial number. -/
theorem serialClause_escape (serialNumber : String) :
    SelectsExactly historySchema (serialClause (Orm.escape serialNumber))
      fun row => decide (row.serialNumber = serialNumber) := by
  -- A doubled quote is one quote of the content.
  have spelled : Sql.Spells standardDialect (Orm.escape serialNumber) serialNumber :=
    Orm.spells_escape rfl (uncut_standard serialNumber.toList)
  have selects := serialClause_denotes spelled
  exact selects

end HistoryDB

/--
Each hand-written clause selects exactly the rows with the values spliced into it if and only if none of
these values has a quote in it.
-/
theorem clauses_selectExactly_iff (release revision deviceType serialNumber : String) :
    (SelectsExactly firmwaresSchema (FirmwaresDB.nameClause release deviceType)
        (fun row => decide (row.release = release) && decide (row.deviceType = deviceType)) ↔
      '\'' ∉ release.toList ∧ '\'' ∉ deviceType.toList) ∧
    (SelectsExactly firmwaresSchema (FirmwaresDB.revisionClause revision deviceType)
        (fun row => decide (row.revision = revision) && decide (row.deviceType = deviceType)) ↔
      '\'' ∉ revision.toList ∧ '\'' ∉ deviceType.toList) ∧
    (SelectsExactly firmwaresSchema (FirmwaresDB.latestClause deviceType)
        (fun row => decide (row.deviceType = deviceType) && decide (row.latest = true)) ↔
      '\'' ∉ deviceType.toList) ∧
    (SelectsExactly historySchema (HistoryDB.serialClause serialNumber)
        (fun row => decide (row.serialNumber = serialNumber)) ↔
      '\'' ∉ serialNumber.toList) :=
  ⟨FirmwaresDB.nameClause_selectsExactly_iff release deviceType,
    FirmwaresDB.revisionClause_selectsExactly_iff revision deviceType,
    FirmwaresDB.latestClause_selectsExactly_iff deviceType,
    HistoryDB.serialClause_selectsExactly_iff serialNumber⟩

/-- A serial number with a quote in it makes `DeleteHistory` remove the entries of another device. -/
theorem deleteHistory_other_device :
    ¬ SelectsExactly historySchema (HistoryDB.serialClause "x' or serialNumber!='")
        (fun row => decide (row.serialNumber = "x' or serialNumber!='")) ∧
      (HistoryDB.deleteHistory .sqlite (.single { id := "1", serialNumber := "aabbccddeeff" })
        "x' or serialNumber!='").2.rows = [] := by
  -- The quote ends the literal early, and what follows is a comparison that every other row meets.
  constructor
  · intro selects
    exact (HistoryDB.serialClause_selectsExactly_iff _).mp selects (by decide)
  · decide +kernel

end Fms
