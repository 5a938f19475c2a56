import Fms.Rest.FirmwaresHandler
import Fms.Sql.Unquoted
import Fms.Storage.Statements

/-! Whether the requests that look up firmwares find what is stored, for any text that is stored. -/

namespace Fms

namespace Orm

/-- Escaping doubles the quotes. -/
theorem toList_escape_doubled (V : String) : (escape V).toList = Sql.doubled V.toList :=
  toList_escape V

/-- Escaping leaves a text without quotes alone. -/
theorem escape_of_not_mem {V : String} (absent : '\'' ∉ V.toList) : escape V = V :=
  String.toList_inj.mp (by rw [toList_escape_doubled, Sql.doubled_of_not_mem absent])

/-- Escaping changes every text with a quote. -/
theorem escape_ne_of_mem {V : String} (quote : '\'' ∈ V.toList) : escape V ≠ V := by
  intro same
  -- The quote takes up one character more than before.
  have grows : ∀ text : List Char, text.length ≤ (Sql.doubled text).length := by
    intro text
    induction text with
    | nil => exact Nat.le_refl 0
    | cons c rest ih =>
      by_cases apart : c = '\''
      · subst apart
        simp only [Sql.doubled_quote, List.length_cons]
        omega
      · simp only [Sql.doubled_cons apart, List.length_cons]
        omega
  obtain ⟨front, back, parts⟩ := List.append_of_mem quote
  have lengths := congrArg String.toList same
  rw [toList_escape_doubled, parts, Sql.doubled, List.flatMap_append, List.flatMap_cons, ← Sql.doubled,
    ← Sql.doubled] at lengths
  have length := congrArg List.length lengths
  have before := grows front
  have behind := grows back
  simp only [if_true, List.length_append, List.length_cons, List.length_nil] at length
  omega

/-- Only the empty text is escaped to the empty text. -/
theorem escape_eq_empty_iff {V : String} : escape V = "" ↔ V = "" := by
  constructor
  · intro empty
    -- A quote would still be there, and without one nothing is changed.
    by_cases quote : '\'' ∈ V.toList
    · have member : '\'' ∈ (escape V).toList := by
        rw [toList_escape]
        exact List.mem_flatMap.mpr ⟨'\'', quote, by simp⟩
      rw [empty] at member
      simp at member
    · rwa [escape_of_not_mem quote] at empty
  · rintro rfl
    rfl

/-- What is escaped to the empty text was empty. -/
theorem escape_ne_empty {V : String} (given : V ≠ "") : escape V ≠ "" :=
  fun empty => given (escape_eq_empty_iff.mp empty)

/-- A literal reads an escaped text that is harmless as the text. -/
theorem spells_of_harmless {type : DBType} {V : String} (harmless : Harmless type V) :
    Sql.Spells type.dialect (escape V) V := by
  -- The doubled quotes are read as single ones, and every backslash as itself.
  obtain ⟨kept, uncut⟩ := (harmless_iff type V).mp harmless
  intro read
  rw [toList_escape_doubled]
  exact Sql.feed_doubled kept uncut read

/-- Only a product without escapes takes a null character for the end of a statement. -/
theorem standard_of_endsAtNul {type : DBType} (ends : type.dialect.endsAtNul = true) :
    type.dialect.backslashEscapes = false := by
  cases type with
  | sqlite | pgsql => rfl
  | mysql => contradiction

end Orm

namespace FirmwaresDB

/-- What `ComputeFirmwareAge` computes for the row it has found, if any, and the latest one. -/
def ageDetails (revision : String) (current : Option Firmware) (latestFirmware : Firmware) :
    FirmwareAgeDetails where
  latestId := latestFirmware.id
  image := latestFirmware.image
  imageDate := latestFirmware.imageDate
  revision := latestFirmware.revision
  uri := latestFirmware.uri
  age :=
    match current with
    | some currentFirmware => latestFirmware.imageDate - currentFirmware.imageDate
    | none => 0
  latest := revision = latestFirmware.revision

/-- The age is computed from the row that is found by revision and from the latest one. -/
theorem computeFirmwareAge_eq (type : DBType) (c : Catalogue) (deviceType revision : String) :
    computeFirmwareAge type c deviceType revision = (latestRow c deviceType).map
      (ageDetails revision (getFirmwareByRevision type c revision deviceType)) := by
  -- Both go from the newest entry of the type to its row.
  simp only [computeFirmwareAge, latestRow, Option.bind_eq_bind]
  cases c.latestFirmwareCache.findLatestFirmware deviceType with
  | none => rfl
  | some LE =>
    cases found : getFirmware c LE.id with
    | none => simp [found]
    | some latestFirmware =>
      simp only [found, Option.bind_some, Option.map_some]
      rfl

/-- What `ComputeFirmwareAge` computes for two stored values, compared as they are stored. -/
def storedAge (c : Catalogue) (deviceType revision : String) : Option FirmwareAgeDetails :=
  (latestRow c deviceType).map (ageDetails revision (c.firmwares.rows.find? fun row =>
    decide (row.revision = revision) && decide (row.deviceType = deviceType)))

end FirmwaresDB

open FirmwaresDB

/-- The answer with a row, if there is one. -/
def FirmwaresHandler.rowAnswer : Option Firmware → Answer
  | some F => .object F.toJson
  | none => .notFound

/-- The answer with the details of an age, if there are any. -/
def FirmwareAgeHandler.ageAnswer : Option FirmwareAgeDetails → Answer
  | some FA => .object FA.toJson
  | none => .notFound

/-- A device type and a revision are stored in the catalogue. -/
structure Catalogue.Stores (c : Catalogue) (deviceType revision : String) : Prop where
  deviceType : ∃ row ∈ c.firmwares.rows, row.deviceType = deviceType
  revision : ∃ row ∈ c.firmwares.rows, row.revision = revision

/-- The three requests for a device type and a revision find what is stored. -/
structure LookupsRight (type : DBType) (lastUpdate : UInt64) (deviceCache : DeviceCacheMap) (c : Catalogue)
    (deviceType revision : String) : Prop where
  /-- With `latestOnly`, the answer is the row the cache holds for the type. -/
  latest : FirmwaresHandler.doGet type lastUpdate c { deviceType, latestOnly := true } =
    FirmwaresHandler.rowAnswer (latestRow c deviceType)
  /-- The age is computed for the stored values. -/
  age : FirmwareAgeHandler.doGet type c deviceCache { deviceType, revision } =
    FirmwareAgeHandler.ageAnswer (storedAge c deviceType revision)
  /-- With a limit that covers the table and that the database accepts, the rows of the type are listed. -/
  listed : ∀ limit, limit < type.rangeBound → c.firmwares.rows.length ≤ limit →
    FirmwaresHandler.doGet type lastUpdate c { deviceType, limit } =
      FirmwaresHandler.listed {} (c.firmwares.rows.filter fun row => decide (row.deviceType = deviceType))

/-- Whatever else the catalogue has, the lookups of two stored texts find what is stored. -/
def FindsStored (type : DBType) (deviceType revision : String) : Prop :=
  ∀ (lastUpdate : UInt64) (deviceCache : DeviceCacheMap) (c : Catalogue), c.Stores deviceType revision →
    LookupsRight type lastUpdate deviceCache c deviceType revision

/-- A text that all lookups treat as what it is: not empty, without quotes, and harmless inside a literal. -/
structure Ordinary (type : DBType) (V : String) : Prop where
  given : V ≠ ""
  unquoted : '\'' ∉ V.toList
  harmless : Orm.Harmless type V

variable {type : DBType} {lastUpdate : UInt64} {deviceCache : DeviceCacheMap} {c : Catalogue}
  {deviceType revision : String}

/-- A clause begins with the name of its column, so it is not left out. -/
theorem clause_ne_empty (deviceType revision : String) :
    typeClause deviceType ≠ "" ∧ revisionClause revision deviceType ≠ "" := by
  -- Both texts have characters in them, whatever the values are.
  constructor
  · intro empty
    have nothing := congrArg String.toList empty
    simp [typeClause] at nothing
  · intro empty
    have nothing := congrArg String.toList empty
    simp [revisionClause] at nothing

/-- With `latestOnly`, the type is looked up in the cache as it has been escaped. -/
theorem FirmwaresHandler.doGet_latestOnly (given : deviceType ≠ "") :
    doGet type lastUpdate c { deviceType, latestOnly := true } =
      rowAnswer (latestRow c (Orm.escape deviceType)) := by
  have given' : Orm.escape deviceType ≠ "" := Orm.escape_ne_empty given
  -- The branch is taken because the escaped type is not empty.
  simp only [doGet, latestRow, Bool.false_eq_true, if_false, if_true, ne_eq, given', not_false_eq_true,
    Option.bind_eq_bind]
  cases c.latestFirmwareCache.findLatestFirmware (Orm.escape deviceType) with
  | none => rfl
  | some Entry => cases found : getFirmware c Entry.id <;> simp [found, rowAnswer]

/-- The age is computed for both values as they have been escaped. -/
theorem FirmwareAgeHandler.doGet_values (given : deviceType ≠ "") (given' : revision ≠ "") :
    doGet type c deviceCache { deviceType, revision } =
      ageAnswer (computeFirmwareAge type c (Orm.escape deviceType) (Orm.escape revision)) := by
  have escaped : Orm.escape deviceType ≠ "" := Orm.escape_ne_empty given
  have escaped' : Orm.escape revision ≠ "" := Orm.escape_ne_empty given'
  have none_ : stringTokens ',' "" = [] := rfl
  -- Without `select`, both values are required, and both are given.
  simp only [doGet, none_, ne_eq, not_true_eq_false, if_false, escaped, escaped', or_self, trimRevision]
  cases computeFirmwareAge type c (Orm.escape deviceType) (Orm.escape revision) <;> rfl

/-- Without `latestOnly`, the rows that the clause for the escaped type selects are listed. -/
theorem FirmwaresHandler.doGet_list (given : deviceType ≠ "") (limit : Nat) :
    doGet type lastUpdate c { deviceType, limit } =
      listed {} ((Orm.getRecords type c.firmwares 0 limit (typeClause (Orm.escape deviceType))).getD []) := by
  have given' : Orm.escape deviceType ≠ "" := Orm.escape_ne_empty given
  simp [doGet, given', getFirmwares, compatibleClause, listed]

/-- A clause that can be read finds the first row that meets it, and any other finds nothing. -/
theorem FirmwaresDB.getFirmwareByRevision_cases (type : DBType) (revision deviceType : String) :
    (∃ condition, Sql.whereClause type.dialect firmwaresSchema.columns (revisionClause revision deviceType) =
        some condition ∧
      ∀ c, getFirmwareByRevision type c revision deviceType = c.firmwares.rows.find? condition) ∨
    ∀ c, getFirmwareByRevision type c revision deviceType = none := by
  cases denotes : Sql.whereClause type.dialect firmwaresSchema.columns (revisionClause revision deviceType) with
  | some condition =>
    exact Or.inl ⟨condition, rfl, fun c => Orm.head_getRecords denotes c.firmwares 1⟩
  | none =>
    have begun := (clause_ne_empty deviceType revision).2
    -- The database refuses the statement whatever the table has.
    refine Or.inr fun c => ?_
    simp [getFirmwareByRevision, Orm.getRecords, Orm.matching, begun, denotes]

/-- With a limit that covers the table, the rows that a clause selects are all on the first page. -/
theorem Orm.getRecords_all {whereText : String} {condition : Firmware → Bool}
    (denotes : Sql.whereClause type.dialect firmwaresSchema.columns whereText = some condition)
    {limit : Nat} (covers : c.firmwares.rows.length ≤ limit) :
    (Orm.getRecords type c.firmwares 0 limit whereText).getD [] = c.firmwares.rows.filter condition := by
  have rows := Orm.matching_of_clause denotes c.firmwares
  have fits : (c.firmwares.rows.filter condition).length ≤ limit :=
    Nat.le_trans (List.length_filter_le _ _) covers
  simp only [Orm.getRecords, rows, KeyedTable.select, Option.bind_eq_bind, Option.bind_some, List.drop_zero,
    List.take_of_length_le fits]
  -- An empty page is reported as no result at all, which is the empty list again.
  split
  · rename_i empty
    exact (List.isEmpty_iff.mp empty).symm
  · rfl

/-- Whatever quotes the type has, the list finds its rows, since the database undoes the escaping. -/
theorem FirmwaresHandler.lists_stored (given : deviceType ≠ "") (harmless : Orm.Harmless type deviceType)
    {limit : Nat} (covers : c.firmwares.rows.length ≤ limit) :
    doGet type lastUpdate c { deviceType, limit } =
      listed {} (c.firmwares.rows.filter fun row => decide (row.deviceType = deviceType)) := by
  -- The clause is read as the comparison with the type itself.
  have selects := typeClause_denotes type (Orm.spells_of_harmless harmless)
  rw [doGet_list given, Orm.getRecords_all selects covers]

/-- Ordinary texts are looked up as what they are. -/
theorem lookupsRight_of_ordinary (ordinary : Ordinary type deviceType) (ordinary' : Ordinary type revision) :
    LookupsRight type lastUpdate deviceCache c deviceType revision := by
  -- Escaping changes neither text, and both literals are read as what is stored.
  have same := Orm.escape_of_not_mem ordinary.unquoted
  have same' := Orm.escape_of_not_mem ordinary'.unquoted
  have spelled := Orm.spells_of_harmless ordinary.harmless
  have spelled' := Orm.spells_of_harmless ordinary'.harmless
  constructor
  · rw [FirmwaresHandler.doGet_latestOnly ordinary.given, same]
  · rw [FirmwareAgeHandler.doGet_values ordinary.given ordinary'.given, computeFirmwareAge_eq, storedAge]
    have found : getFirmwareByRevision type c (Orm.escape revision) (Orm.escape deviceType) = _ :=
      Orm.head_getRecords (revisionClause_denotes spelled' spelled) c.firmwares 1
    rw [found, same, same']
  · intro limit _ covers
    exact FirmwaresHandler.lists_stored ordinary.given ordinary.harmless covers

/-- A catalogue in which the cache holds one of the rows for its type. -/
def holding (firmwares : FirmwaresTable) (latest : Firmware) : Catalogue where
  firmwares := firmwares
  latestFirmwareCache := { cache := (∅ : LatestFirmwareCacheMap).insert latest.deviceType (entry latest) }

/-- The one row of the catalogue is the latest one of its type. -/
def only (deviceType revision : String) : Firmware :=
  { id := "1", deviceType, revision, imageDate := 1 }

/-- The catalogue with one row. -/
def holdingOnly (deviceType revision : String) : Catalogue :=
  holding (.single (only deviceType revision)) (only deviceType revision)

/-- The row is found for its type. -/
theorem latestRow_holding {firmwares : FirmwaresTable} {latest : Firmware} (stored : latest ∈ firmwares.rows) :
    latestRow (holding firmwares latest) latest.deviceType = some latest := by
  -- The cached entry has the id of the row.
  have found : (holding firmwares latest).latestFirmwareCache.findLatestFirmware latest.deviceType =
      some (entry latest) := by
    simp [holding, LatestFirmwareCache.findLatestFirmware]
  have fetched : getFirmware (holding firmwares latest) latest.id = some latest :=
    KeyedTable.lookup_eq_some.mpr ⟨stored, rfl⟩
  rw [latestRow, found]
  exact fetched

/-- No row is found for any other type. -/
theorem latestRow_holding_of_ne {firmwares : FirmwaresTable} {latest : Firmware}
    (other : deviceType ≠ latest.deviceType) : latestRow (holding firmwares latest) deviceType = none := by
  have absent : (holding firmwares latest).latestFirmwareCache.findLatestFirmware deviceType = none := by
    simp [holding, LatestFirmwareCache.findLatestFirmware, Ne.symm other]
  simp [latestRow, absent]

/-- The catalogue with one row stores its values. -/
theorem stores_holdingOnly (deviceType revision : String) :
    (holdingOnly deviceType revision).Stores deviceType revision :=
  ⟨⟨_, List.mem_cons_self, rfl⟩, ⟨_, List.mem_cons_self, rfl⟩⟩

/-- Details are written to objects that give their age and their flag back. -/
theorem FirmwaresDB.FirmwareAgeDetails.get_toJson (FA : FirmwareAgeDetails) :
    FA.toJson.get "age" = .int FA.age.toNat ∧ FA.toJson.get "latest" = .bool FA.latest := by
  -- Each member is set once, under a name of its own.
  simp [toJson, FieldToJson.all, FieldToJson.string, FieldToJson.uint64, FieldToJson.bool,
    JsonObject.get_set]

/-- Both texts have to be given. -/
theorem given_of_finds (finds : FindsStored type deviceType revision) :
    deviceType ≠ "" ∧ revision ≠ "" := by
  have age := (finds 0 ∅ _ (stores_holdingOnly deviceType revision)).age
  -- Otherwise the request is refused.
  by_contra missing
  have refused : Orm.escape deviceType = "" ∨ Orm.escape revision = "" := by
    rw [Orm.escape_eq_empty_iff, Orm.escape_eq_empty_iff]
    exact or_iff_not_imp_left.mpr fun given => not_not.mp fun given' => missing ⟨given, given'⟩
  have none_ : stringTokens ',' "" = [] := rfl
  rw [FirmwareAgeHandler.doGet] at age
  simp only [none_, ne_eq, not_true_eq_false, if_false, if_pos refused] at age
  generalize storedAge (holdingOnly deviceType revision) deviceType revision = details at age
  cases details <;> cases age

/-- The type must have no quote, since the cache is asked for the escaped one. -/
theorem unquoted_of_finds (finds : FindsStored type deviceType revision) : '\'' ∉ deviceType.toList := by
  -- Otherwise the cache would be asked for another type.
  intro quote
  obtain ⟨given, _⟩ := given_of_finds finds
  have latest := (finds 0 ∅ _ (stores_holdingOnly deviceType revision)).latest
  have found : latestRow (holdingOnly deviceType revision) deviceType = some (only deviceType revision) :=
    latestRow_holding List.mem_cons_self
  have missed : latestRow (holdingOnly deviceType revision) (Orm.escape deviceType) = none :=
    latestRow_holding_of_ne (Orm.escape_ne_of_mem quote)
  rw [FirmwaresHandler.doGet_latestOnly given, found, missed] at latest
  simp [FirmwaresHandler.rowAnswer] at latest

/-- The revision must have no quote, since the escaped one is compared with that of the latest row. -/
theorem unquoted_revision_of_finds (finds : FindsStored type deviceType revision) : '\'' ∉ revision.toList := by
  -- Otherwise the flag would compare the row with another revision.
  intro quote
  obtain ⟨given, given'⟩ := given_of_finds finds
  have age := (finds 0 ∅ _ (stores_holdingOnly deviceType revision)).age
  have same := Orm.escape_of_not_mem (unquoted_of_finds finds)
  have found : latestRow (holdingOnly deviceType revision) deviceType = some (only deviceType revision) :=
    latestRow_holding List.mem_cons_self
  rw [FirmwareAgeHandler.doGet_values given given', computeFirmwareAge_eq, storedAge, same, found] at age
  simp only [Option.map_some, FirmwareAgeHandler.ageAnswer, Answer.object.injEq] at age
  have flags := congrArg (fun obj => JsonObject.get obj "latest") age
  simp only [FirmwareAgeDetails.get_toJson, Var.bool.injEq, ageDetails, only, decide_true] at flags
  exact Orm.escape_ne_of_mem quote (of_decide_eq_true flags)

/-- A list with a row is not the list without rows. -/
theorem FirmwaresHandler.listed_ne (F : Firmware) : listed {} [] ≠ listed {} [F] := by
  intro same
  simp [listed, JsonObject.set] at same

/-- A catalogue with one row shows what the list finds for its type. -/
theorem list_of_finds (finds : FindsStored type deviceType revision) :
    FirmwaresHandler.listed {} ((Orm.getRecords type (holdingOnly deviceType revision).firmwares 0 1
        (typeClause deviceType)).getD []) =
      FirmwaresHandler.listed {} [only deviceType revision] := by
  obtain ⟨given, _⟩ := given_of_finds finds
  have absent := unquoted_of_finds finds
  have accepted : 1 < type.rangeBound := by cases type <;> decide
  have list := (finds 0 ∅ _ (stores_holdingOnly deviceType revision)).listed 1 accepted (Nat.le_refl 1)
  -- The one row has the type.
  have expected : (holdingOnly deviceType revision).firmwares.rows.filter
      (fun row => decide (row.deviceType = deviceType)) = [only deviceType revision] := by
    simp [holdingOnly, holding, only]
  rw [FirmwaresHandler.doGet_list given, Orm.escape_of_not_mem absent, expected] at list
  exact list

/-- The clause for the type can be read, or the list leaves its row out. -/
theorem lexed_of_finds (finds : FindsStored type deviceType revision) :
    ∃ tokens, Sql.lex type.dialect (typeClause deviceType) = some tokens := by
  have list := list_of_finds finds
  have begun := (clause_ne_empty deviceType revision).1
  -- A statement that cannot be read fails, and nothing is listed.
  cases lexed : Sql.lex type.dialect (typeClause deviceType) with
  | some tokens => exact ⟨tokens, rfl⟩
  | none =>
    have failed : (Orm.getRecords type (holdingOnly deviceType revision).firmwares 0 1
        (typeClause deviceType)).getD [] = [] := by
      simp [Orm.getRecords, Orm.matching, begun, Sql.whereClause, lexed]
    rw [failed] at list
    exact absurd list (FirmwaresHandler.listed_ne _)

/-- The type must be harmless, or the list leaves its row out. -/
theorem harmless_of_finds (finds : FindsStored type deviceType revision) : Orm.Harmless type deviceType := by
  have absent := unquoted_of_finds finds
  have list := list_of_finds finds
  obtain ⟨tokens, lexed⟩ := lexed_of_finds finds
  have before : Sql.feed type.dialect .gap " DeviceType='".toList =
      some ([.word "DeviceType", .symbol "="], .literal []) := rfl
  have uncut : Sql.Uncut type.dialect deviceType.toList := fun ends =>
    Sql.uncut_of_lex (Orm.standard_of_endsAtNul ends) before lexed absent ends
  refine (Orm.harmless_iff type deviceType).mpr ⟨fun escapes => ?_, uncut⟩
  rcases Sql.spells_or_escapes absent uncut with ⟨content, spelled⟩ | behind
  · -- The clause selects the rows of the type that the literal is read as.
    rw [Orm.getRecords_all (typeClause_denotes type spelled) (Nat.le_refl 1)] at list
    by_cases same : content = deviceType
    · exact (Sql.spells_self_iff absent uncut spelled).mp same escapes
    · have none_ : (holdingOnly deviceType revision).firmwares.rows.filter
          (fun row => decide (row.deviceType = content)) = [] := by
        simp [holdingOnly, holding, only, Ne.symm same]
      rw [none_] at list
      exact absurd list (FirmwaresHandler.listed_ne _)
  · -- The clause would have no end.
    exact absurd (lexed.symm.trans (Sql.lex_of_escape before behind)) (by simp)

/-- The age of a stored revision is counted from the row that has it. -/
theorem age_of_finds (finds : FindsStored type deviceType revision) {firmwares : FirmwaresTable}
    {latest : Firmware} (stored : latest ∈ firmwares.rows) (named : latest.deviceType = deviceType)
    (revised : ∃ row ∈ firmwares.rows, row.revision = revision) :
    (ageDetails revision (getFirmwareByRevision type (holding firmwares latest) revision deviceType) latest).age =
      (ageDetails revision (firmwares.rows.find? fun row =>
        decide (row.revision = revision) && decide (row.deviceType = deviceType)) latest).age := by
  -- The two answers have the same member for the age.
  obtain ⟨given, given'⟩ := given_of_finds finds
  have same := Orm.escape_of_not_mem (unquoted_of_finds finds)
  have same' := Orm.escape_of_not_mem (unquoted_revision_of_finds finds)
  have stores : (holding firmwares latest).Stores deviceType revision := ⟨⟨latest, stored, named⟩, revised⟩
  have age := (finds 0 ∅ _ stores).age
  have found : latestRow (holding firmwares latest) deviceType = some latest :=
    named ▸ latestRow_holding stored
  rw [FirmwareAgeHandler.doGet_values given given', computeFirmwareAge_eq, storedAge, same, same', found] at age
  simp only [Option.map_some, FirmwareAgeHandler.ageAnswer, Answer.object.injEq] at age
  have ages := congrArg (fun obj => JsonObject.get obj "age") age
  simp only [FirmwareAgeDetails.get_toJson, Var.int.injEq, Int.natCast_inj] at ages
  exact UInt64.toNat_inj.mp ages

/-- The row of a newer image, which the cache holds. -/
def newer (deviceType : String) : Firmware :=
  { id := "3", deviceType, imageDate := 8 }

/-- A row with two values, and a newer one of its type. -/
def withNewer (deviceType revision : String) : FirmwaresTable where
  rows := [only deviceType revision, newer deviceType]
  distinct := by
    show (["1", "3"] : List String).Nodup
    decide

/-- The second row with two values. -/
def another (deviceType revision : String) : Firmware :=
  { id := "2", deviceType, revision, imageDate := 2 }

/-- The same behind a row of the next type. -/
def behindNext (deviceType revision : String) : FirmwaresTable where
  rows := [only (deviceType ++ "\x00") revision, another deviceType revision, newer deviceType]
  distinct := by
    show (["1", "2", "3"] : List String).Nodup
    decide

/-- An age is the difference of the image dates. -/
theorem age_found (deviceType revision : String) (row : Firmware) :
    (ageDetails revision (some row) (newer deviceType)).age = 8 - row.imageDate := rfl

/-- In the first table the revision is seven seconds older than the newest one. -/
theorem age_withNewer (finds : FindsStored type deviceType revision) :
    (ageDetails revision (getFirmwareByRevision type
      (holding (withNewer deviceType revision) (newer deviceType)) revision deviceType)
        (newer deviceType)).age = 7 := by
  have stored : newer deviceType ∈ (withNewer deviceType revision).rows := by simp [withNewer]
  have age := age_of_finds finds stored rfl ⟨only deviceType revision, by simp [withNewer], rfl⟩
  have expected : (withNewer deviceType revision).rows.find? (fun row =>
      decide (row.revision = revision) && decide (row.deviceType = deviceType)) =
      some (only deviceType revision) := by
    simp [withNewer, only]
  rw [age, expected, age_found]
  show (8 : UInt64) - 1 = 7
  decide

/-- In the second table it is six seconds older, because the row in front has another type. -/
theorem age_behindNext (finds : FindsStored type deviceType revision) :
    (ageDetails revision (getFirmwareByRevision type
      (holding (behindNext deviceType revision) (newer deviceType)) revision deviceType)
        (newer deviceType)).age = 6 := by
  have next : deviceType ++ "\x00" ≠ deviceType := by
    intro same
    have lengths := congrArg String.length same
    rw [String.length_append] at lengths
    have one : "\x00".length = 1 := rfl
    omega
  have stored : newer deviceType ∈ (behindNext deviceType revision).rows := by simp [behindNext]
  have age := age_of_finds finds stored rfl ⟨another deviceType revision, by simp [behindNext], rfl⟩
  have expected : (behindNext deviceType revision).rows.find? (fun row =>
      decide (row.revision = revision) && decide (row.deviceType = deviceType)) =
      some (another deviceType revision) := by
    simp [behindNext, only, another, next]
  rw [age, expected, age_found]
  show (8 : UInt64) - 2 = 6
  decide

/-- The clause of `GetFirmwareByRevision` tells the row with two values from the one with the next type. -/
theorem selects_of_finds (finds : FindsStored type deviceType revision) :
    ∃ condition, Sql.whereClause type.dialect firmwaresSchema.columns (revisionClause revision deviceType) =
        some condition ∧
      condition (only deviceType revision) = true ∧
        condition (only (deviceType ++ "\x00") revision) = false := by
  -- Two tables tell from the ages which rows the clause selects.
  have age := age_withNewer finds
  have age' := age_behindNext finds
  have zero : (ageDetails revision none (newer deviceType)).age = 0 := rfl
  rcases getFirmwareByRevision_cases type revision deviceType with ⟨condition, denotes, first⟩ | none_
  · refine ⟨condition, denotes, ?_, ?_⟩
    · -- Otherwise the age would be counted from the newer row, or from none.
      rw [first] at age
      by_contra unselected
      have passed : (holding (withNewer deviceType revision) (newer deviceType)).firmwares.rows.find? condition =
          if condition (newer deviceType) then some (newer deviceType) else none := by
        cases later : condition (newer deviceType) <;> simp [holding, withNewer, unselected, later]
      rw [passed] at age
      split at age
      · have none_ : (8 : UInt64) - 8 = 7 := age
        exact absurd none_ (by decide)
      · rw [zero] at age
        exact absurd age (by decide)
    · -- Otherwise it would be counted from the row in front.
      rw [first] at age'
      by_contra selected
      have front : (holding (behindNext deviceType revision) (newer deviceType)).firmwares.rows.find? condition =
          some (only (deviceType ++ "\x00") revision) := by
        simp [holding, behindNext, Bool.eq_true_of_not_eq_false selected]
      rw [front] at age'
      have seven : (8 : UInt64) - 1 = 6 := age'
      exact absurd seven (by decide)
  · rw [none_, zero] at age
    exact absurd age (by decide)

/-- The revision must be harmless, or the age is counted from another row or from none. -/
theorem harmless_revision_of_finds (finds : FindsStored type deviceType revision) :
    Orm.Harmless type revision := by
  have absent := unquoted_of_finds finds
  have absent' := unquoted_revision_of_finds finds
  have spelledType := Orm.spells_of_harmless (harmless_of_finds finds)
  rw [Orm.escape_of_not_mem absent] at spelledType
  obtain ⟨condition, denotes, selected, unselected⟩ := selects_of_finds finds
  obtain ⟨tokens, c, lexed, parsed, compiled, _⟩ := Sql.exists_condition denotes
  have before : Sql.feed type.dialect .gap " Revision='".toList =
      some ([.word "Revision", .symbol "="], .literal []) := rfl
  have uncut : Sql.Uncut type.dialect revision.toList := by
    intro ends
    have joined : revisionClause revision deviceType =
        " Revision='" ++ revision ++ ("' and DeviceType='" ++ deviceType ++ "' ") := by
      simp only [revisionClause, String.append_assoc]
    exact Sql.uncut_of_lex (Orm.standard_of_endsAtNul ends) before (joined ▸ lexed) absent' ends
  refine (Orm.harmless_iff type revision).mpr ⟨fun escapes => ?_, uncut⟩
  have mysql : type = .mysql := by
    cases type with
    | sqlite | pgsql => contradiction
    | mysql => rfl
  rcases Sql.spells_or_escapes absent' uncut with ⟨content, spelled⟩ | behind
  · -- The clause selects the rows with the revision that the literal is read as.
    rw [revisionClause_denotes spelled spelledType] at denotes
    have same := congrFun (Option.some.inj denotes) (only deviceType revision)
    rw [selected] at same
    have both : (decide (revision = content) && decide (deviceType = deviceType)) = true := same
    have same' : revision = content := of_decide_eq_true (Bool.and_eq_true_iff.mp both).1
    exact (Sql.spells_self_iff absent' uncut spelled).mp same'.symm escapes
  · -- The literal swallows the name of the other column, and no literal is left for the type.
    have plain : Sql.AllQuoted [.word "Revision", .symbol "="] := fun value member => by simp at member
    have inside (left : List Char) : ∃ read, '\'' ∈ read ∧
        Sql.feed type.dialect (.escape left) "' and DeviceType='".toList = some ([], .closing read) := by
      have chars : "' and DeviceType='".toList = '\'' :: (" and DeviceType=".toList ++ ['\'']) := by decide
      have between : Sql.Plain type.dialect " and DeviceType=" := by
        rw [mysql]
        decide
      refine ⟨left ++ ['\''] ++ " and DeviceType=".toList, by simp, ?_⟩
      rw [chars]
      exact Sql.feed_beyond_quote between left
    have quoted := Sql.allQuoted_of_escape before plain behind inside absent lexed
    have apart : condition (only deviceType revision) ≠ condition (only (deviceType ++ "\x00") revision) := by
      rw [selected, unselected]
      decide
    have agree : Sql.AgreeExcept firmwaresSchema.columns "devicetype" (only deviceType revision)
        (only (deviceType ++ "\x00") revision) :=
      (agreeExcept_set (only deviceType revision) (deviceType ++ "\x00") false).2.2.1
    have column : firmwaresSchema.columns "devicetype" = some (.text Firmware.deviceType) := rfl
    obtain ⟨atom, member, _, constant⟩ := Sql.exists_pin compiled column agree rfl apart
    -- The type has no quote, and neither has the next text.
    have noQuote : '\'' ∉ (deviceType ++ "\x00").toList := by
      rw [String.toList_append, List.mem_append, not_or]
      exact ⟨absent, by decide⟩
    exfalso
    rcases constant with text | text
    · exact absent (quoted _ (Sql.literal_mem_of_atom parsed member text))
    · exact noQuote (quoted _ (Sql.literal_mem_of_atom parsed member text))

/--
The lookups find what is stored exactly for texts that are given, have no quote, and are harmless in a literal.

A quote is doubled for the clauses, and so it is in the texts that the cache and the latest revision are
compared with, where nothing undoes it.
-/
theorem findsStored_iff (type : DBType) (deviceType revision : String) :
    FindsStored type deviceType revision ↔ Ordinary type deviceType ∧ Ordinary type revision := by
  -- The requests for one row and for three rows need all six conditions.
  constructor
  · intro finds
    obtain ⟨given, given'⟩ := given_of_finds finds
    exact ⟨⟨given, unquoted_of_finds finds, harmless_of_finds finds⟩,
      ⟨given', unquoted_revision_of_finds finds, harmless_revision_of_finds finds⟩⟩
  · rintro ⟨ordinary, ordinary'⟩ lastUpdate deviceCache c _
    exact lookupsRight_of_ordinary ordinary ordinary'

/-- A catalogue to which one firmware of a type with a quote has been added. -/
def quotedType : Catalogue :=
  (addFirmware .sqlite ⟨"1", true⟩ {} { deviceType := "o'ap", revision := "r1", imageDate := 1 }).2.2

/-- The latest firmware of a type with a quote is in the cache and in the table, and is not found. -/
theorem quotedType_not_found :
    quotedType.Stores "o'ap" "r1" ∧ (latestRow quotedType "o'ap").isSome = true ∧
      ¬ LookupsRight .sqlite 0 ∅ quotedType "o'ap" "r1" := by
  -- The cache is asked for a type with two quotes.
  have held : (latestRow quotedType "o'ap").isSome = true := by decide +kernel
  have missed : latestRow quotedType (Orm.escape "o'ap") = none := by decide +kernel
  have stored : quotedType.Stores "o'ap" "r1" :=
    ⟨by decide +kernel, by decide +kernel⟩
  refine ⟨stored, held, fun right => ?_⟩
  have latest := right.latest
  rw [FirmwaresHandler.doGet_latestOnly (by decide), missed] at latest
  cases found : latestRow quotedType "o'ap" with
  | none => simp [found] at held
  | some F =>
    rw [found] at latest
    cases latest

end Fms
