import Fms.Catalogue.FirmwaresLaws
import Fms.Manifest.Compute

/-! `AddManifestToDB` brings the stored rows in line with the valid entries of the map. -/

namespace Fms

/-- A row without its flag, which additions of other images may clear. -/
def Firmware.unflagged (F : Firmware) : Firmware :=
  { F with latest := false }

/-- The name of a row: its release and its device type. -/
def Firmware.name (F : Firmware) : String × String :=
  (F.release, F.deviceType)

/-- The names of some rows, in order. -/
def names (rows : List Firmware) : List (String × String) :=
  rows.map Firmware.name

/-- The names can be read off the rows without their flags. -/
theorem names_eq (rows : List Firmware) :
    names rows = (rows.map Firmware.unflagged).map Firmware.name := by
  -- A flag is no part of a name.
  rw [names, List.map_map]
  exact List.map_congr_left fun _ _ => rfl

/-- Clearing flags is invisible once all flags are dropped. -/
theorem map_unflagged_unflag (chosen rows : List Firmware) :
    (rows.map (FirmwaresDB.unflag chosen)).map Firmware.unflagged =
      rows.map Firmware.unflagged := by
  rw [List.map_map]
  -- A row without its flag is one that does not read the flag.
  exact List.map_congr_left fun row _ =>
    FirmwaresDB.read_unflag Firmware.unflagged (fun _ => rfl) chosen row

/-- The record the loop inserts for an entry, as it is stored, without its flag. -/
def recordOf (ctx : ManifestContext) (item : String × S3BucketEntry) : Firmware :=
  (FirmwaresDB.stored (ctx.addition item.1)
    (firmwareOf (ctx.created item.1) item.1 item.2)).unflagged

variable {type : DBType} {ctx : ManifestContext} {c : Catalogue}

/-- One turn of the loop appends the record of its entry or changes flags only. -/
theorem insertEntry_cases (type : DBType) (ctx : ManifestContext) (c : Catalogue)
    (item : String × S3BucketEntry) :
    (insertEntry type ctx c item).firmwares.rows.map Firmware.unflagged =
        c.firmwares.rows.map Firmware.unflagged ∨
      (item.2.valid = true ∧
        FirmwaresDB.getFirmwareByName type c item.1 item.2.compatible = none ∧
        (insertEntry type ctx c item).firmwares.rows.map Firmware.unflagged =
          c.firmwares.rows.map Firmware.unflagged ++ [recordOf ctx item]) := by
  unfold insertEntry
  -- The entry is valid and has no row, or the turn does nothing.
  by_cases wanted : (item.2.valid &&
      (FirmwaresDB.getFirmwareByName type c item.1 item.2.compatible).isNone) = true
  · rw [if_pos wanted]
    simp only [Bool.and_eq_true, Option.isNone_iff_eq_none] at wanted
    obtain ⟨_, added | refused⟩ := FirmwaresDB.addFirmware_cases type (ctx.addition item.1) c
      (firmwareOf (ctx.created item.1) item.1 item.2)
    · refine Or.inr ⟨wanted.1, wanted.2, ?_⟩
      rw [added.2.1, List.map_append, map_unflagged_unflag]
      rfl
    · -- The insertion failed after the flags were cleared.
      exact Or.inl (by rw [refused.2, map_unflagged_unflag])
  · rw [if_neg wanted]
    exact Or.inl rfl

/-- With plain strings, a firmware is found by name exactly when a row has the name. -/
theorem getFirmwareByName_eq_none {release deviceType : String}
    (plainRelease : Sql.Plain type.dialect release)
    (plainType : Sql.Plain type.dialect deviceType) :
    FirmwaresDB.getFirmwareByName type c release deviceType = none ↔
      (release, deviceType) ∉ names c.firmwares.rows := by
  -- The clause finds the rows with both values, which is what a name is.
  rw [FirmwaresDB.getFirmwareByName_eq plainRelease plainType, List.find?_eq_none]
  simp only [names, List.mem_map, Firmware.name, Prod.mk.injEq, Bool.and_eq_true,
    decide_eq_true_eq, not_exists, not_and]

/-- The records of entries bring the names of these entries to a table. -/
theorem names_of_appended {before after : List Firmware} {chosen : List (String × S3BucketEntry)}
    (rows : after.map Firmware.unflagged =
      before.map Firmware.unflagged ++ chosen.map (recordOf ctx)) :
    names after = names before ++ chosen.map fun item => (item.1, item.2.compatible) := by
  -- A name does not depend on the flag.
  rw [names_eq, rows, List.map_append, ← names_eq, List.map_map]
  exact congrArg _ (List.map_congr_left fun _ _ => rfl)

/--
The loop keeps the rows up to their flags, and appends records of some valid entries.

An entry with a plain name is among them only when no row had its name before.
-/
theorem foldl_insertEntry (type : DBType) (ctx : ManifestContext) (c : Catalogue)
    (items : List (String × S3BucketEntry)) :
    ∃ chosen : List (String × S3BucketEntry), chosen.Sublist items ∧
      (∀ item ∈ chosen, item.2.valid = true ∧
        (Sql.Plain type.dialect item.1 → Sql.Plain type.dialect item.2.compatible →
          (item.1, item.2.compatible) ∉ names c.firmwares.rows)) ∧
      (items.foldl (insertEntry type ctx) c).firmwares.rows.map Firmware.unflagged =
        c.firmwares.rows.map Firmware.unflagged ++ chosen.map (recordOf ctx) := by
  induction items using List.reverseRecOn with
  | nil => exact ⟨[], List.Sublist.refl _, by simp, by simp⟩
  | append_singleton before item ih =>
    obtain ⟨chosen, within, accepted, rows⟩ := ih
    rw [List.foldl_append, List.foldl_cons, List.foldl_nil]
    -- The last turn adds its record to those of the turns before it, or none.
    rcases insertEntry_cases type ctx (before.foldl (insertEntry type ctx) c) item
      with same | ⟨valid, absent, grown⟩
    · exact ⟨chosen, within.trans (List.sublist_append_left _ _), accepted, same.trans rows⟩
    · refine ⟨chosen ++ [item], within.append (List.Sublist.refl _), ?_, ?_⟩
      · intro other member
        rcases List.mem_append.mp member with early | last
        · exact accepted other early
        · rw [List.mem_singleton.mp last]
          refine ⟨valid, fun plainRelease plainType stored => ?_⟩
          -- The names of the old rows are still there when the entry is looked up.
          refine (getFirmwareByName_eq_none plainRelease plainType).mp absent ?_
          rw [names_of_appended rows]
          exact List.mem_append_left _ stored
      · rw [grown, rows, List.map_append, List.map_singleton, List.append_assoc]

/-- The statements of the insertions are executed, under ids that are new to the table. -/
structure ManifestContext.Succeeds (ctx : ManifestContext) (releases : List String)
    (rows : List Firmware) : Prop where
  executed : ∀ r ∈ releases, (ctx.addition r).executed = true
  fresh : ∀ r ∈ releases, ∀ row ∈ rows, row.id ≠ (ctx.addition r).uuid
  distinct : ∀ left ∈ releases, ∀ right ∈ releases,
    (ctx.addition left).uuid = (ctx.addition right).uuid → left = right

/-- A wanted entry under a new id is inserted. -/
theorem insertEntry_of_needed (type : DBType) {item : String × S3BucketEntry}
    (executed : (ctx.addition item.1).executed = true)
    (fresh : ∀ row ∈ c.firmwares.rows, row.id ≠ (ctx.addition item.1).uuid)
    (valid : item.2.valid = true)
    (absent : FirmwaresDB.getFirmwareByName type c item.1 item.2.compatible = none) :
    (insertEntry type ctx c item).firmwares.rows.map Firmware.unflagged =
      c.firmwares.rows.map Firmware.unflagged ++ [recordOf ctx item] := by
  have wanted : (item.2.valid &&
      (FirmwaresDB.getFirmwareByName type c item.1 item.2.compatible).isNone) = true := by
    simp [valid, absent]
  have succeeds := FirmwaresDB.addFirmware_of_fresh type executed fresh
    (firmwareOf (ctx.created item.1) item.1 item.2)
  rw [insertEntry, if_pos wanted]
  -- Under a new id an executed insertion is not refused.
  obtain ⟨_, added | refused⟩ := FirmwaresDB.addFirmware_cases type (ctx.addition item.1) c
    (firmwareOf (ctx.created item.1) item.1 item.2)
  · rw [added.2.1, List.map_append, map_unflagged_unflag]
    rfl
  · exact absurd (succeeds.symm.trans refused.1) (by simp)

/-- When its statements succeed, the loop inserts every valid entry whose name no row has yet. -/
theorem foldl_insertEntry_of_needed (type : DBType) {items : List (String × S3BucketEntry)}
    {item : String × S3BucketEntry} (member : item ∈ items) (once : (items.map Prod.fst).Nodup)
    (succeeds : ctx.Succeeds (items.map Prod.fst) c.firmwares.rows) (valid : item.2.valid = true)
    (plainRelease : Sql.Plain type.dialect item.1)
    (plainType : Sql.Plain type.dialect item.2.compatible)
    (absent : (item.1, item.2.compatible) ∉ names c.firmwares.rows) :
    recordOf ctx item ∈
      (items.foldl (insertEntry type ctx) c).firmwares.rows.map Firmware.unflagged := by
  -- The loop reaches the entry after some others, and the entries behind it only append.
  obtain ⟨before, after, rfl⟩ := List.append_of_mem member
  rw [List.foldl_append, List.foldl_cons]
  obtain ⟨chosen, within, _, rows⟩ := foldl_insertEntry type ctx c before
  generalize before.foldl (insertEntry type ctx) c = current at rows ⊢
  obtain ⟨_, _, _, later⟩ := foldl_insertEntry type ctx (insertEntry type ctx current item) after
  have others : ∀ other ∈ chosen, other.1 ≠ item.1 ∧ other.1 ∈ (before ++ item :: after).map Prod.fst := by
    intro other inChosen
    have inBefore : other.1 ∈ before.map Prod.fst := List.mem_map_of_mem (within.subset inChosen)
    simp only [List.map_append, List.map_cons, List.nodup_append] at once
    exact ⟨once.2.2 other.1 inBefore item.1 (by simp), by
      rw [List.map_append]
      exact List.mem_append_left _ inBefore⟩
  have itself : item.1 ∈ (before ++ item :: after).map Prod.fst := by simp
  have free : (item.1, item.2.compatible) ∉ names current.firmwares.rows := by
    intro taken
    rw [names_of_appended rows] at taken
    -- The entries before this one have other releases, so they have not taken its name.
    rcases List.mem_append.mp taken with old | new
    · exact absent old
    · obtain ⟨other, inChosen, named⟩ := List.mem_map.mp new
      have releases := congrArg Prod.fst named
      exact (others other inChosen).1 releases
  have fresh : ∀ row ∈ current.firmwares.rows, row.id ≠ (ctx.addition item.1).uuid := by
    intro row present same
    have image : row.unflagged ∈ current.firmwares.rows.map Firmware.unflagged :=
      List.mem_map_of_mem present
    rw [rows] at image
    -- Its id belongs to an old row or to a record inserted before.
    rcases List.mem_append.mp image with old | new
    · obtain ⟨start, inTable, alike⟩ := List.mem_map.mp old
      have ids := congrArg Firmware.id alike
      exact succeeds.fresh item.1 itself start inTable (ids.trans same)
    · obtain ⟨other, inChosen, alike⟩ := List.mem_map.mp new
      have ids := congrArg Firmware.id alike
      obtain ⟨apart, inItems⟩ := others other inChosen
      exact apart (succeeds.distinct other.1 inItems item.1 itself (ids.trans same))
  have inserted := insertEntry_of_needed type (succeeds.executed item.1 itself) fresh valid
    ((getFirmwareByName_eq_none plainRelease plainType).mpr free)
  rw [later, inserted]
  exact List.mem_append_left _ (List.mem_append_right _ (List.mem_singleton.mpr rfl))

/-- The loop over entries of distinct releases keeps the names of the rows distinct. -/
theorem nodup_names_foldl (type : DBType) (ctx : ManifestContext)
    {items : List (String × S3BucketEntry)} (unique : (names c.firmwares.rows).Nodup)
    (once : (items.map Prod.fst).Nodup)
    (plain : ∀ item ∈ items,
      Sql.Plain type.dialect item.1 ∧ Sql.Plain type.dialect item.2.compatible) :
    (names (items.foldl (insertEntry type ctx) c).firmwares.rows).Nodup := by
  obtain ⟨chosen, within, accepted, rows⟩ := foldl_insertEntry type ctx c items
  rw [names_of_appended rows, List.nodup_append]
  -- An inserted name is new to the table, and no two entries share a release.
  refine ⟨unique, ?_, ?_⟩
  · rw [List.Nodup, List.pairwise_map] at once ⊢
    refine (once.sublist within).imp fun different same => different ?_
    exact (Prod.mk.inj same).1
  · intro left inTable right inserted same
    obtain ⟨item, inChosen, rfl⟩ := List.mem_map.mp inserted
    obtain ⟨plainRelease, plainType⟩ := plain item (within.subset inChosen)
    exact (accepted item inChosen).2 plainRelease plainType (same ▸ inTable)

/-- A row after the loop has the release of a row before it or of an entry. -/
theorem release_foldl (type : DBType) (ctx : ManifestContext)
    {items : List (String × S3BucketEntry)} {row : Firmware}
    (member : row ∈ (items.foldl (insertEntry type ctx) c).firmwares.rows) :
    (∃ start ∈ c.firmwares.rows, start.release = row.release) ∨
      ∃ item ∈ items, item.1 = row.release := by
  obtain ⟨chosen, within, _, rows⟩ := foldl_insertEntry type ctx c items
  have image := List.mem_map_of_mem (f := Firmware.unflagged) member
  rw [rows] at image
  -- The row is left from before up to its flag, or it is a record of an entry.
  rcases List.mem_append.mp image with old | new
  · obtain ⟨start, inTable, alike⟩ := List.mem_map.mp old
    have release := congrArg Firmware.release alike
    exact Or.inl ⟨start, inTable, release⟩
  · obtain ⟨item, inChosen, alike⟩ := List.mem_map.mp new
    have release := congrArg Firmware.release alike
    exact Or.inr ⟨item, within.subset inChosen, release⟩

/-- Two rows with the same content up to the flag differ in nothing else. -/
theorem eq_of_unflagged {stays row : Firmware} (same : stays.unflagged = row.unflagged) :
    { stays with latest := row.latest } = row := by
  -- Putting the flag back undoes dropping it.
  have restored := congrArg (fun F : Firmware => { F with latest := row.latest }) same
  exact restored

/-- The loop changes nothing but the flag of a row. -/
theorem stays_foldl (type : DBType) (ctx : ManifestContext) (items : List (String × S3BucketEntry))
    {row : Firmware} (stored : row ∈ c.firmwares.rows) :
    ∃ stays ∈ (items.foldl (insertEntry type ctx) c).firmwares.rows,
      { stays with latest := row.latest } = row := by
  obtain ⟨chosen, _, _, rows⟩ := foldl_insertEntry type ctx c items
  have image : row.unflagged ∈
      (items.foldl (insertEntry type ctx) c).firmwares.rows.map Firmware.unflagged := by
    rw [rows]
    exact List.mem_append_left _ (List.mem_map_of_mem stored)
  obtain ⟨stays, present, alike⟩ := List.mem_map.mp image
  exact ⟨stays, present, eq_of_unflagged alike⟩

/-- The releases of a map are distinct. -/
theorem nodup_releases (bucket : S3BucketContent) : (bucket.toList.map Prod.fst).Nodup := by
  have apart := Std.ExtTreeMap.distinct_keys_toList (t := bucket)
  rw [List.Nodup, List.pairwise_map]
  refine apart.imp fun different same => different ?_
  rw [same, Std.compare_eq_iff_eq]

/-- After the rows of other releases are removed, the loop runs over the entries that stay. -/
theorem addManifestToDB_eq (type : DBType) (c : Catalogue) (bucket : S3BucketContent)
    (selected : ctx.selected = true) :
    ∃ pruned : Catalogue,
      pruned.firmwares.rows = c.firmwares.rows.filter
        (fun row => (removeStaging bucket).contains row.release) ∧
      addManifestToDB type ctx bucket c =
        some ((removeStaging bucket).toList.foldl (insertEntry type ctx) pruned) := by
  -- A select statement that returns its rows lets the loop run.
  have removed : ∃ result, FirmwaresDB.removeOldDBEntriesNotInManifest true
      (removeStaging bucket) c = some result := ⟨_, rfl⟩
  obtain ⟨⟨count, pruned⟩, done⟩ := removed
  refine ⟨pruned, FirmwaresDB.rows_removeOldDBEntriesNotInManifest done, ?_⟩
  rw [addManifestToDB, selected, done]
  rfl

/-- Each entry is validated by its own manifest text, whatever the other entries hold. -/
def Validated (poco : Poco) (limit : UInt64) (bucket computed : S3BucketContent) : Prop :=
  ∀ r entry, bucket[r]? = some entry → ∃ validated, computed[r]? = some validated ∧
    (validated.valid = true ↔ Acceptable poco limit r entry.s3ContentManifest) ∧
    ∀ other : S3BucketContent, other[r]? = some entry →
      (computeManifest poco limit other)[r]? = some validated

/-- The stored rows agree with the entries of a map. -/
structure Reconciled (bucket : S3BucketContent) (before after : List Firmware) : Prop where
  /-- Every row belongs to an entry that is no staging build. -/
  listed : ∀ row ∈ after, ∃ entry, bucket[row.release]? = some entry ∧ isStaging entry = false
  /-- Every valid entry that is no staging build has exactly one row. -/
  present : ∀ r entry, bucket[r]? = some entry → entry.valid = true → isStaging entry = false →
    ∃ row, after.filter (fun row => decide (row.name = (r, entry.compatible))) = [row]
  /-- The rows of releases that stay are unchanged except for their flag. -/
  kept : ∀ row ∈ before, (removeStaging bucket).contains row.release = true →
    ∃ stays ∈ after, { stays with latest := row.latest } = row

/-- Validation looks at one entry at a time. -/
theorem validated_computeManifest (poco : Poco) (limit : UInt64) {bucket : S3BucketContent}
    (unread : ∀ (r : String) (entry : S3BucketEntry), bucket[r]? = some entry → entry.valid = false) :
    Validated poco limit bucket (computeManifest poco limit bucket) := by
  -- The entry under a release is computed from the entry alone.
  intro r entry found
  refine ⟨computeEntry poco limit r entry, ?_, computeEntry_valid (unread r entry found), ?_⟩
  · rw [getElem?_computeManifest, found, Option.map_some]
  · intro other alike
    rw [getElem?_computeManifest, alike, Option.map_some]

/-- The loop leaves the rows reconciled when its statements succeed. -/
theorem reconciled_addManifestToDB {bucket : S3BucketContent}
    (unique : (names c.firmwares.rows).Nodup)
    (plain : ∀ r entry, bucket[r]? = some entry →
      Sql.Plain type.dialect r ∧ Sql.Plain type.dialect entry.compatible)
    (selected : ctx.selected = true)
    (succeeds : ctx.Succeeds ((removeStaging bucket).toList.map Prod.fst) c.firmwares.rows) :
    ∃ done, addManifestToDB type ctx bucket c = some done ∧
      Reconciled bucket c.firmwares.rows done.firmwares.rows := by
  obtain ⟨pruned, remaining, done⟩ :=
    addManifestToDB_eq type c bucket selected
  refine ⟨_, done, ?_⟩
  have listed {r : String} {entry : S3BucketEntry} : (r, entry) ∈ (removeStaging bucket).toList ↔
      bucket[r]? = some entry ∧ isStaging entry = false := by
    rw [Std.ExtTreeMap.mem_toList_iff_getElem?_eq_some, getElem?_removeStaging]
  -- The pruned table still meets everything the loop relies on.
  have within : ∀ row ∈ pruned.firmwares.rows, row ∈ c.firmwares.rows := by
    intro row member
    rw [remaining] at member
    exact (List.mem_filter.mp member).1
  have once : (names pruned.firmwares.rows).Nodup := by
    rw [remaining]
    exact (List.filter_sublist.map Firmware.name).nodup unique
  have releases := nodup_releases (removeStaging bucket)
  have statements : ctx.Succeeds ((removeStaging bucket).toList.map Prod.fst)
      pruned.firmwares.rows :=
    ⟨succeeds.executed, fun r member row present => succeeds.fresh r member row (within row present),
      succeeds.distinct⟩
  have distinct := nodup_names_foldl type ctx once releases fun item member =>
    plain item.1 item.2 (listed.mp member).1
  refine ⟨?_, ?_, ?_⟩
  · -- A row is left from before, or it is a record of an entry.
    intro row member
    rcases release_foldl type ctx member with ⟨start, inTable, release⟩ | ⟨item, inItems, release⟩
    · rw [remaining] at inTable
      obtain ⟨entry, found, build⟩ := contains_removeStaging.mp (List.mem_filter.mp inTable).2
      exact ⟨entry, release ▸ found, build⟩
    · obtain ⟨found, build⟩ := listed.mp inItems
      exact ⟨item.2, release ▸ found, build⟩
  · intro r entry found valid build
    refine KeyedTable.filter_eq_singleton distinct ?_
    show (r, entry.compatible) ∈ names _
    -- The name had a row already, or the loop has inserted one.
    by_cases taken : (r, entry.compatible) ∈ names pruned.firmwares.rows
    · obtain ⟨chosen, _, _, rows⟩ :=
        foldl_insertEntry type ctx pruned (removeStaging bucket).toList
      rw [names_of_appended rows]
      exact List.mem_append_left _ taken
    · obtain ⟨plainRelease, plainType⟩ := plain r entry found
      have inserted := foldl_insertEntry_of_needed type (listed.mpr ⟨found, build⟩) releases
        statements valid plainRelease plainType taken
      rw [names_eq]
      exact List.mem_map_of_mem inserted
  · -- A row of a release that stays survives the removal, and then the loop.
    intro row stored stays
    refine stays_foldl type ctx _ ?_
    rw [remaining]
    exact List.mem_filter.mpr ⟨stored, stays⟩

/-- Validating a map and bringing the table in line with it does both correctly. -/
theorem reconcile_correct (type : DBType) (poco : Poco) (limit : UInt64) (ctx : ManifestContext)
    (bucket : S3BucketContent) (c : Catalogue)
    (unread : ∀ (r : String) (entry : S3BucketEntry), bucket[r]? = some entry → entry.valid = false)
    (unique : (names c.firmwares.rows).Nodup)
    (plain : ∀ r entry, (computeManifest poco limit bucket)[r]? = some entry →
      Sql.Plain type.dialect r ∧ Sql.Plain type.dialect entry.compatible)
    (selected : ctx.selected = true)
    (succeeds : ctx.Succeeds ((removeStaging (computeManifest poco limit bucket)).toList.map
      Prod.fst) c.firmwares.rows) :
    ∃ done, addManifestToDB type ctx (computeManifest poco limit bucket) c = some done ∧
      Validated poco limit bucket (computeManifest poco limit bucket) ∧
      Reconciled (computeManifest poco limit bucket) c.firmwares.rows done.firmwares.rows := by
  obtain ⟨done, ran, reconciled⟩ := reconciled_addManifestToDB unique plain selected succeeds
  exact ⟨done, ran, validated_computeManifest poco limit unread, reconciled⟩

/-- A manifest text of the release `r1`. -/
def manifestText : String :=
  "\x7b\"image\":\"r1-upgrade.bin\",\"compatible\":\"eap101\",\"revision\":\"v1\",\"timestamp\":200\x7d"

/-- The library on that manifest. -/
def manifestPoco : Poco :=
  Poco.onDocuments [(manifestText, .object [("image", .string "r1-upgrade.bin"),
    ("compatible", .string "eap101"), ("revision", .string "v1"), ("timestamp", .int 200)])]

/-- Insertions that all succeed, under ids made from the release. -/
def insertsAll : ManifestContext where
  created := fun _ => 0
  addition := fun release => { uuid := "new-" ++ release }

/-- The entry the listing of the release `r1` leaves. -/
def listedEntry : S3BucketEntry where
  s3ContentManifest := manifestText
  s3TimeStamp := 200
  uri := "https://fw/r1-upgrade.bin"

/-- A manifest text of the release `r2`. -/
def secondText : String :=
  "\x7b\"image\":\"r2-upgrade.bin\",\"compatible\":\"eap101\",\"revision\":\"v2\",\"timestamp\":300\x7d"

/-- The library on both manifests. -/
def manifestsPoco : Poco :=
  Poco.onDocuments [
    (manifestText, .object [("image", .string "r1-upgrade.bin"), ("compatible", .string "eap101"),
      ("revision", .string "v1"), ("timestamp", .int 200)]),
    (secondText, .object [("image", .string "r2-upgrade.bin"), ("compatible", .string "eap101"),
      ("revision", .string "v2"), ("timestamp", .int 300)])]

/-- The listing of both releases. -/
def twoListed : S3BucketContent :=
  ((∅ : S3BucketContent).insert "r1" listedEntry).insert "r2"
    { s3ContentManifest := secondText, s3TimeStamp := 300, uri := "https://fw/r2-upgrade.bin" }

/-- The stored rows: one of a release that is listed, and one of a release that is not. -/
def twoStored : Catalogue where
  firmwares := {
    rows := [
      { id := "f1", release := "r1", deviceType := "eap101", revision := "v1", imageDate := 200, latest := true },
      { id := "f0", release := "r0", deviceType := "eap101", revision := "v0", imageDate := 150 }]
    distinct := by decide }

/-- Of the listing of two releases there is nothing else. -/
theorem mem_twoListed {r : String} {entry : S3BucketEntry} (found : twoListed[r]? = some entry) :
    (r = "r1" ∧ entry = listedEntry) ∨ r = "r2" ∧ entry.s3ContentManifest = secondText ∧ entry.valid = false := by
  rw [twoListed, Std.ExtTreeMap.getElem?_insert, Std.ExtTreeMap.getElem?_insert] at found
  simp only [Std.compare_eq_iff_eq, Std.ExtTreeMap.getElem?_empty] at found
  split at found
  · rename_i second
    obtain rfl := Option.some.inj found
    exact Or.inr ⟨second.symm, rfl, rfl⟩
  · simp only [Option.ite_none_right_eq_some, Option.some.injEq] at found
    exact Or.inl ⟨found.1.symm, found.2.symm⟩

/-- One release is stored, one stays, and the row of the release that is not listed goes. -/
theorem reconcile_two_releases :
    (∃ done, addManifestToDB .sqlite insertsAll (computeManifest manifestsPoco 100 twoListed) twoStored = some done ∧
      Validated manifestsPoco 100 twoListed (computeManifest manifestsPoco 100 twoListed) ∧
      Reconciled (computeManifest manifestsPoco 100 twoListed) twoStored.firmwares.rows done.firmwares.rows) ∧
      ((addManifestToDB .sqlite insertsAll (computeManifest manifestsPoco 100 twoListed) twoStored).map fun done =>
        names done.firmwares.rows) = some [("r1", "eap101"), ("r2", "eap101")] := by
  refine ⟨reconcile_correct .sqlite manifestsPoco 100 insertsAll twoListed twoStored ?_ (by decide) ?_ rfl
    ⟨by decide +kernel, by decide +kernel, by decide +kernel⟩, by decide +kernel⟩
  · intro r entry found
    rcases mem_twoListed found with ⟨-, rfl⟩ | ⟨-, -, unread⟩
    · rfl
    · exact unread
  · -- Both releases and their type are plain texts.
    intro r entry found
    have compatible : ((computeManifest manifestsPoco 100 twoListed).toList.all fun item =>
        item.2.compatible == "eap101" && (item.1 == "r1" || item.1 == "r2")) = true := by decide +kernel
    have both := List.all_eq_true.mp compatible _
      (Std.ExtTreeMap.mem_toList_iff_getElem?_eq_some.mpr found)
    simp only [Bool.and_eq_true, Bool.or_eq_true, beq_iff_eq] at both
    obtain ⟨type, rfl | rfl⟩ := both
    all_goals
      rw [type]
      decide +kernel

end Fms
