import Fms.Catalogue.FirmwaresDb

/-! What each operation of `FirmwaresDB` does to the stored rows and to the cache. -/

namespace Fms.FirmwaresDB

variable {type : DBType} {dialect : Sql.Dialect}

/-- The clause for a spelled device type selects the flagged rows of the type. -/
theorem latestClause_denotes {text deviceType : String}
    (spelled : Sql.Spells dialect text deviceType) :
    Sql.whereClause dialect firmwaresSchema.columns (latestClause text) =
      some fun row => decide (row.deviceType = deviceType) && decide (row.latest = true) := by
  -- The literal is read in one piece, so everything around it is a closed computation.
  have tokens := Sql.lex_one_literal spelled " deviceType='" "' AND Latest=true "
    [.word "deviceType", .symbol "="]
    (fun read => [.literal (String.ofList read), .word "AND", .word "Latest", .symbol "=",
      .word "true"])
    rfl fun _ => rfl
  have parsed (value : String) : Sql.parseCondition [.word "deviceType", .symbol "=",
      .literal value, .word "AND", .word "Latest", .symbol "=", .word "true"] =
      some (.both (.compare "deviceType" .eq (.text value))
        (.compare "Latest" .eq (.boolean true))) := rfl
  have compiled (value : String) : (Sql.Condition.both (.compare "deviceType" .eq (.text value))
      (.compare "Latest" .eq (.boolean true))).compile firmwaresSchema.columns =
      some fun row => decide (row.deviceType = value) && decide (row.latest = true) :=
    congrArg some (funext fun row =>
      congrArg₂ and (Sql.holds_eq row.deviceType value) (Sql.holds_eq row.latest true))
  rw [String.ofList_toList] at tokens
  exact Sql.whereClause_eq_some tokens (parsed deviceType) (compiled deviceType)

/-- The clause for a spelled release and device type selects the rows that have both. -/
theorem nameClause_denotes {releaseText release typeText deviceType : String}
    (spelledRelease : Sql.Spells dialect releaseText release)
    (spelledType : Sql.Spells dialect typeText deviceType) :
    Sql.whereClause dialect firmwaresSchema.columns (nameClause releaseText typeText) =
      some fun row => decide (row.release = release) && decide (row.deviceType = deviceType) := by
  -- Both columns are texts, and what stands around the literals is a closed computation.
  have first : firmwaresSchema.columns (Sql.lower "release") = some (.text Firmware.release) := rfl
  have second : firmwaresSchema.columns (Sql.lower "DeviceType") = some (.text Firmware.deviceType) :=
    rfl
  exact Sql.whereClause_two_texts first second spelledRelease spelledType " release='"
    "' and DeviceType='" "' " rfl (fun _ => rfl) fun _ => rfl

/-- The clause for a spelled revision and device type selects the rows that have both. -/
theorem revisionClause_denotes {revisionText revision typeText deviceType : String}
    (spelledRevision : Sql.Spells dialect revisionText revision)
    (spelledType : Sql.Spells dialect typeText deviceType) :
    Sql.whereClause dialect firmwaresSchema.columns (revisionClause revisionText typeText) =
      some fun row => decide (row.revision = revision) && decide (row.deviceType = deviceType) := by
  -- The clause has the shape of the one for names, with another column in front.
  have first : firmwaresSchema.columns (Sql.lower "Revision") = some (.text Firmware.revision) := rfl
  have second : firmwaresSchema.columns (Sql.lower "DeviceType") = some (.text Firmware.deviceType) :=
    rfl
  exact Sql.whereClause_two_texts first second spelledRevision spelledType " Revision='"
    "' and DeviceType='" "' " rfl (fun _ => rfl) fun _ => rfl

/-- The age clause selects the rows whose image date lies below the limit. -/
theorem ageClause_denotes (limit : UInt64) :
    Sql.whereClause type.dialect firmwaresSchema.columns (ageClause limit) =
      some fun row => decide (bigint row.imageDate < limit.toNat) := by
  have tokens : Sql.lex type.dialect ("imageDate < " ++ toString limit.toNat) = _ :=
    Sql.lex_number "imageDate < " [.word "imageDate", .symbol "<"] limit.toNat rfl
  have parsed (n : Nat) : Sql.parseCondition [.word "imageDate", .symbol "<", .number n] =
      some (.compare "imageDate" .lt (.number n)) := rfl
  have compiled (n : Nat) :
      (Sql.Condition.compare "imageDate" .lt (.number n)).compile firmwaresSchema.columns =
      some fun row => Sql.Comparison.lt.holds (compare (bigint row.imageDate) (n : Int)) := rfl
  -- The limit is written in decimal, so it is compared as a natural number.
  rw [Sql.whereClause, ageClause, tokens]
  simp [parsed, compiled, Sql.holds_lt]

/-- The first row with a release and a device type is found by both. -/
theorem getFirmwareByName_eq {release deviceType : String}
    (plainRelease : Sql.Plain type.dialect release) (plainType : Sql.Plain type.dialect deviceType)
    (c : Catalogue) :
    getFirmwareByName type c release deviceType =
      c.firmwares.rows.find? fun row =>
        decide (row.release = release) && decide (row.deviceType = deviceType) :=
  Orm.head_getRecords (nameClause_denotes plainRelease.spells plainType.spells) c.firmwares 1

/-- The first row with a revision and a device type is found by both. -/
theorem getFirmwareByRevision_eq {revision deviceType : String}
    (plainRevision : Sql.Plain type.dialect revision) (plainType : Sql.Plain type.dialect deviceType)
    (c : Catalogue) :
    getFirmwareByRevision type c revision deviceType =
      c.firmwares.rows.find? fun row =>
        decide (row.revision = revision) && decide (row.deviceType = deviceType) :=
  Orm.head_getRecords (revisionClause_denotes plainRevision.spells plainType.spells) c.firmwares 1

/-- A firmware found by revision is a stored row, whatever the clause denotes. -/
theorem getFirmwareByRevision_mem {revision deviceType : String} {c : Catalogue} {F : Firmware}
    (found : getFirmwareByRevision type c revision deviceType = some F) : F ∈ c.firmwares.rows := by
  -- A page holds stored rows, and the result is the first of one.
  obtain ⟨Fs, read, first⟩ := Option.bind_eq_some_iff.mp found
  exact (Orm.getRecords_subset read).subset (List.mem_of_mem_head? first)

/-- A date is recent when the column that holds it is not below the limit of the age statement. -/
def Recent (limit date : UInt64) : Prop :=
  (limit.toNat : Int) ≤ bigint date

instance (limit date : UInt64) : Decidable (Recent limit date) :=
  inferInstanceAs (Decidable ((limit.toNat : Int) ≤ bigint date))

/-- Removing old firmware keeps the rows with recent image dates. -/
theorem rows_removeOldFirmware (now maxAge : UInt64) (c : Catalogue) :
    (removeOldFirmware type now maxAge c).firmwares.rows =
      c.firmwares.rows.filter fun row => decide (Recent (now - maxAge) row.imageDate) := by
  -- The statement deletes what is below the limit, so what is at it stays.
  simp only [removeOldFirmware, Orm.deleteRecords_of_clause (ageClause_denotes (now - maxAge)),
    KeyedTable.delete]
  refine List.filter_congr fun row _ => ?_
  rw [← decide_not]
  exact decide_eq_decide.mpr Int.not_lt

/-- Pruning keeps exactly the rows whose release is in the bucket. -/
theorem rows_removeOldDBEntriesNotInManifest {bucket : S3BucketContent} {c : Catalogue}
    {removed : Nat} {pruned : Catalogue}
    (done : removeOldDBEntriesNotInManifest true bucket c = some (removed, pruned)) :
    pruned.firmwares.rows = c.firmwares.rows.filter fun row => bucket.contains row.release := by
  simp only [removeOldDBEntriesNotInManifest, if_true, Option.some.injEq, Prod.mk.injEq] at done
  obtain ⟨_, rfl⟩ := done
  rw [Orm.rows_foldl_deleteRecord]
  refine List.filter_congr fun row stored => ?_
  -- A row is named by a collected id only when it was collected itself.
  have named : row.id ∈ (c.firmwares.rows.filter fun row => !bucket.contains row.release).map
      Firmware.id ↔ bucket.contains row.release = false := by
    simp only [List.mem_map, List.mem_filter]
    constructor
    · rintro ⟨other, ⟨present, outside⟩, same⟩
      have alike : other = row := KeyedTable.eq_of_key present stored same
      simpa [alike] using outside
    · exact fun outside => ⟨row, ⟨stored, by simp [outside]⟩, rfl⟩
  cases inside : bucket.contains row.release <;> simp [named, inside]

/-- Pruning leaves the cache alone. -/
theorem cache_removeOldDBEntriesNotInManifest {bucket : S3BucketContent} {c : Catalogue}
    {selected : Bool} {removed : Nat} {pruned : Catalogue}
    (done : removeOldDBEntriesNotInManifest selected bucket c = some (removed, pruned)) :
    pruned.latestFirmwareCache = c.latestFirmwareCache := by
  -- Only the table is written, in the branch that does not throw.
  unfold removeOldDBEntriesNotInManifest at done
  split at done
  · cases done
    rfl
  · contradiction

/-- The addition to the cache that a stored row stands for. -/
def addition (F : Firmware) : LatestFirmwareCache.Addition :=
  ⟨F.deviceType, F.revision, F.id, F.imageDate⟩

/-- Populating adds every stored row to the cache, in listing order. -/
theorem cache_populateLatestFirmwareCache (type : DBType) (c : Catalogue) :
    (populateLatestFirmwareCache type c).latestFirmwareCache =
      (c.firmwares.rows.map addition).foldl LatestFirmwareCache.add c.latestFirmwareCache := by
  have visitor : (fun (cache : LatestFirmwareCache) (F : Firmware) =>
      cache.addToCache F.deviceType F.revision F.id F.imageDate) =
      fun cache F => (true, cache.add (addition F)) := by
    funext cache F
    exact Prod.ext (by simp) rfl
  -- Without a where clause every row is visited.
  have all : Orm.matching type c.firmwares "" = some c.firmwares.rows := rfl
  rw [populateLatestFirmwareCache, visitor, Orm.iterate_all all (Nat.le_refl _), List.foldl_map]

/-- The record an addition stores. -/
def stored (ctx : AddContext) (F : Firmware) : Firmware :=
  { F with id := ctx.uuid, latest := true }

/-- The flagged rows an addition reads, one page of at most two hundred. -/
def superseded (type : DBType) (c : Catalogue) (deviceType : String) : List Firmware :=
  (Orm.getRecords type c.firmwares 0 200 (latestClause deviceType)).getD []

/-- A row as an addition leaves it: the rows it read lose the flag. -/
def unflag (chosen : List Firmware) (row : Firmware) : Firmware :=
  if row.id ∈ chosen.map Firmware.id then { row with latest := false } else row

/-- Losing the flag changes no other field. -/
theorem unflag_eq (chosen : List Firmware) (row : Firmware) :
    unflag chosen row = row ∨ unflag chosen row = { row with latest := false } := by
  unfold unflag
  split
  · exact Or.inr rfl
  · exact Or.inl rfl

/-- What does not read the flag is the same on a row that has lost it. -/
theorem read_unflag {α : Type} (read : Firmware → α)
    (blind : ∀ row : Firmware, read { row with latest := false } = read row)
    (chosen : List Firmware) (row : Firmware) : read (unflag chosen row) = read row := by
  -- A row is kept as it is, or its flag has been cleared.
  rcases unflag_eq chosen row with kept | cleared
  · rw [kept]
  · rw [cleared, blind]

/-- Rows keep their id when they lose the flag. -/
@[simp] theorem id_unflag (chosen : List Firmware) (row : Firmware) :
    (unflag chosen row).id = row.id :=
  read_unflag Firmware.id (fun _ => rfl) chosen row

/-- Rows keep their release when they lose the flag. -/
@[simp] theorem release_unflag (chosen : List Firmware) (row : Firmware) :
    (unflag chosen row).release = row.release :=
  read_unflag Firmware.release (fun _ => rfl) chosen row

/-- Rows keep their device type when they lose the flag. -/
@[simp] theorem deviceType_unflag (chosen : List Firmware) (row : Firmware) :
    (unflag chosen row).deviceType = row.deviceType :=
  read_unflag Firmware.deviceType (fun _ => rfl) chosen row

/-- Rows keep their image date when they lose the flag. -/
@[simp] theorem imageDate_unflag (chosen : List Firmware) (row : Firmware) :
    (unflag chosen row).imageDate = row.imageDate :=
  read_unflag Firmware.imageDate (fun _ => rfl) chosen row

/-- The cache sees a row as before when it loses the flag. -/
@[simp] theorem addition_unflag (chosen : List Firmware) (row : Firmware) :
    addition (unflag chosen row) = addition row :=
  read_unflag addition (fun _ => rfl) chosen row

/-- The flag survives only on the rows that were not read. -/
theorem latest_unflag {chosen : List Firmware} {row : Firmware} :
    (unflag chosen row).latest = true ↔ row.latest = true ∧ row.id ∉ chosen.map Firmware.id := by
  by_cases read : row.id ∈ chosen.map Firmware.id
  · simp [unflag, read]
  · simp [unflag, read]

/-- The rows an addition reads are stored rows, each of them once. -/
theorem superseded_sublist (type : DBType) (c : Catalogue) (deviceType : String) :
    (superseded type c deviceType).Sublist c.firmwares.rows := by
  unfold superseded
  cases read : Orm.getRecords type c.firmwares 0 200 (latestClause deviceType) with
  | none => exact List.nil_sublist _
  | some Fs => exact Orm.getRecords_subset read

/-- Clearing the flag row by row leaves every row as the closed form says. -/
theorem rows_foldl_clearLatest (t : FirmwaresTable) {chosen : List Firmware}
    (read : chosen.Sublist t.rows) :
    (chosen.foldl clearLatest t).rows = t.rows.map (unflag chosen) := by
  -- Every turn replaces the row it has read, under its own key.
  have each : clearLatest = fun t row => t.replace { row with latest := false } := by
    funext t row
    have written := Orm.updateRecord_key t { row with latest := false }
    exact congrArg Prod.snd written
  rw [each]
  exact KeyedTable.rows_foldl_replace (fun row : Firmware => { row with latest := false })
    (fun _ => rfl) chosen t read.subset ((read.map Firmware.id).nodup t.distinct)

/--
An addition clears the flags of the rows it read, and inserts its record with the flag.

The cache accepts every addition, so the branch that withholds the flag is never taken.
-/
theorem addFirmware_eq (type : DBType) (ctx : AddContext) (c : Catalogue) (F : Firmware) :
    addFirmware type ctx c F =
      ((Orm.createRecord ctx.executed
          ((superseded type c F.deviceType).foldl clearLatest c.firmwares) (stored ctx F)).1,
        stored ctx F,
        ⟨(Orm.createRecord ctx.executed
          ((superseded type c F.deviceType).foldl clearLatest c.firmwares) (stored ctx F)).2,
          c.latestFirmwareCache.add (addition (stored ctx F))⟩) := by
  -- Whether the flagged rows are found or not, the two branches are folds over them.
  simp only [addFirmware, LatestFirmwareCache.addToCache_fst, if_true, superseded]
  cases Orm.getRecords type c.firmwares 0 200 (latestClause F.deviceType) <;> rfl

/--
An addition flags its record and unflags the rows it read.

It appends the record under a free id when the database executes the insertion.
-/
theorem addFirmware_cases (type : DBType) (ctx : AddContext) (c : Catalogue) (F : Firmware) :
    let outcome := addFirmware type ctx c F
    let kept := c.firmwares.rows.map (unflag (superseded type c F.deviceType))
    outcome.2.2.latestFirmwareCache = c.latestFirmwareCache.add (addition (stored ctx F)) ∧
      ((outcome.1 = true ∧ outcome.2.2.firmwares.rows = kept ++ [stored ctx F] ∧
          ∀ row ∈ c.firmwares.rows, row.id ≠ ctx.uuid) ∨
        (outcome.1 = false ∧ outcome.2.2.firmwares.rows = kept)) := by
  intro outcome kept
  have rewritten := rows_foldl_clearLatest c.firmwares (superseded_sublist type c F.deviceType)
  have unfolded : outcome = _ := addFirmware_eq type ctx c F
  rw [unfolded]
  refine ⟨rfl, ?_⟩
  rcases Orm.createRecord_cases ctx.executed
    ((superseded type c F.deviceType).foldl clearLatest c.firmwares) (stored ctx F)
    with ⟨created, rows, free⟩ | refused
  · -- A free id in the rewritten table is free in the table before.
    refine Or.inl ⟨created, by rw [rows, rewritten], ?_⟩
    intro row present
    have written : unflag (superseded type c F.deviceType) row ∈
        ((superseded type c F.deviceType).foldl clearLatest c.firmwares).rows := by
      rw [rewritten]
      exact List.mem_map_of_mem present
    simpa [stored] using free _ written
  · exact Or.inr (by rw [refused]; exact ⟨rfl, rewritten⟩)

/-- An executed insertion under a fresh id succeeds. -/
theorem addFirmware_of_fresh (type : DBType) {ctx : AddContext} {c : Catalogue} (executed : ctx.executed = true)
    (fresh : ∀ row ∈ c.firmwares.rows, row.id ≠ ctx.uuid) (F : Firmware) :
    (addFirmware type ctx c F).1 = true := by
  have rewritten := rows_foldl_clearLatest c.firmwares (superseded_sublist type c F.deviceType)
  -- Clearing flags takes no id away and adds none.
  have free : ∀ row ∈ ((superseded type c F.deviceType).foldl clearLatest c.firmwares).rows,
      firmwaresSchema.key row ≠ firmwaresSchema.key (stored ctx F) := by
    intro row present
    rw [rewritten] at present
    obtain ⟨old, inTable, rfl⟩ := List.mem_map.mp present
    simpa [stored] using fresh old inTable
  obtain ⟨grown, created, _⟩ := Orm.createRecord_of_fresh _ free
  rw [addFirmware_eq, executed, created]

/-- Updating a stored firmware under its own id replaces that row. -/
theorem updateFirmware_id (c : Catalogue) (F : Firmware) :
    updateFirmware c F.id F = (true, { c with firmwares := c.firmwares.replace F }) := by
  -- The addressed row and the written record have one id.
  have written := Orm.updateRecord_key c.firmwares F
  simp only [firmwaresSchema_key] at written
  rw [updateFirmware, written]

/-- Deleting a firmware keeps the rows with other ids. -/
theorem rows_deleteFirmware (c : Catalogue) (id : String) :
    (deleteFirmware c id).2.firmwares.rows =
      c.firmwares.rows.filter fun row => decide (row.id ≠ id) := by
  -- The primary key is the id.
  rw [deleteFirmware, Orm.deleteRecord, KeyedTable.delete]
  refine List.filter_congr fun row _ => ?_
  by_cases same : row.id = id <;> simp [same]

end Fms.FirmwaresDB
