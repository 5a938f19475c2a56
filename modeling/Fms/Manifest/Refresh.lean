import Fms.Manifest.Reconcile

/-! What a refresh does to the stored rows, and which rows a failed listing costs. -/

namespace Fms

/--
The objects read describe a release, and its last image among them is no staging build.

A `.json` object describes its base name when it holds a complete manifest, a `.bin` object its base
name without the last eight characters.
-/
def Listed (config : ManifestConfig) (objects : List ListedObject) (release : String) : Prop :=
  ((lastManifest config.poco release objects).isSome = true ∨
      (lastImage release objects).isSome = true) ∧
    ∀ o, lastImage release objects = some o →
      occursIn "-staging-" (objectURI config.bucketUri o.key) = false

instance (config : ManifestConfig) (objects : List ListedObject) (release : String) :
    Decidable (Listed config objects release) :=
  match found : lastImage release objects with
  | none => decidable_of_iff ((lastManifest config.poco release objects).isSome = true)
      (by simp [Listed, found])
  | some o => decidable_of_iff (occursIn "-staging-" (objectURI config.bucketUri o.key) = false)
      (by simp [Listed, found])

variable {config : ManifestConfig} {ctx : RefreshContext} {c : Catalogue}

/-- The map a reconciliation works with, for the map its listing leaves. -/
def validatedMap (config : ManifestConfig) (ctx : RefreshContext) (bucket : S3BucketContent) :
    S3BucketContent :=
  computeManifest config.poco (ctx.computeTime - config.maxAge) bucket

/-- A release stays in the map exactly when it is listed. -/
theorem contains_validatedMap {complete : Bool} {bucket : S3BucketContent}
    (read : readBucket config.poco config.bucketUri ctx.listing = some (complete, bucket))
    (r : String) :
    (removeStaging (validatedMap config ctx bucket)).contains r = true ↔
      Listed config ctx.listing.reached r := by
  have combined := combines_readBucket read r
  rw [contains_removeStaging, validatedMap, getElem?_computeManifest]
  cases found : bucket[r]? with
  | none =>
    -- Without an entry, no object described the release.
    rw [found] at combined
    simp [Listed, combined.1, combined.2]
  | some entry =>
    rw [found] at combined
    obtain ⟨_, described, _, image⟩ := combined
    have uri := congrArg ImagePart.uri image
    simp only [Option.map_some, Option.some.injEq, exists_eq_left', isStaging_computeEntry, Listed,
      described, true_and]
    cases last : lastImage r ctx.listing.reached with
    | none =>
      rw [last] at uri
      have empty : entry.uri = "" := uri
      have noStaging : isStaging entry = false := by
        rw [isStaging, empty]
        decide
      simp only [noStaging, reduceCtorEq, false_imp_iff, implies_true]
    | some o =>
      rw [last] at uri
      have written : entry.uri = objectURI config.bucketUri o.key := uri
      simp only [isStaging, written, Option.some.injEq, forall_eq']

/-- A reconciliation keeps the rows of the listed releases, and appends records of its entries. -/
theorem reconcile_rows {complete : Bool} {bucket : S3BucketContent}
    (read : readBucket config.poco config.bucketUri ctx.listing = some (complete, bucket))
    (selected : ctx.manifest.selected = true) :
    ∃ (done : Catalogue) (chosen : List (String × S3BucketEntry)),
      reconcile config ctx c = some done ∧
      (∀ item ∈ chosen, (validatedMap config ctx bucket)[item.1]? = some item.2 ∧
        isStaging item.2 = false ∧ item.2.valid = true ∧
        (Sql.Plain config.type.dialect item.1 → Sql.Plain config.type.dialect item.2.compatible →
          (item.1, item.2.compatible) ∉ names c.firmwares.rows)) ∧
      done.firmwares.rows.map Firmware.unflagged =
        (c.firmwares.rows.filter fun row => decide (Listed config ctx.listing.reached row.release)).map
          Firmware.unflagged ++ chosen.map (recordOf ctx.manifest) := by
  obtain ⟨pruned, remaining, ran⟩ := addManifestToDB_eq config.type c
    (validatedMap config ctx bucket) selected
  obtain ⟨chosen, within, accepted, rows⟩ := foldl_insertEntry config.type ctx.manifest pruned
    (removeStaging (validatedMap config ctx bucket)).toList
  have started : reconcile config ctx c =
      addManifestToDB config.type ctx.manifest (validatedMap config ctx bucket) c := by
    rw [reconcile, read]
    rfl
  have kept : pruned.firmwares.rows = c.firmwares.rows.filter
      fun row => decide (Listed config ctx.listing.reached row.release) := by
    rw [remaining]
    refine List.filter_congr fun row _ => ?_
    rw [Bool.eq_iff_iff, contains_validatedMap read, decide_eq_true_iff]
  refine ⟨_, chosen, started.trans ran, ?_, by rw [rows, kept]⟩
  intro item member
  have listed := within.subset member
  rw [Std.ExtTreeMap.mem_toList_iff_getElem?_eq_some, getElem?_removeStaging] at listed
  refine ⟨listed.1, listed.2, (accepted item member).1, fun plainRelease plainType stored => ?_⟩
  refine (accepted item member).2 plainRelease plainType ?_
  -- The rows of a release in the map survive the pruning, so the name was taken before it.
  obtain ⟨row, present, named⟩ := List.mem_map.mp stored
  have release : row.release = item.1 := congrArg Prod.fst named
  refine List.mem_map.mpr ⟨row, ?_, named⟩
  rw [remaining, List.mem_filter, release]
  exact ⟨present, contains_removeStaging.mpr ⟨item.2, listed⟩⟩

/-- A row with a new id in the result of a reconciliation is the record of an entry of its map. -/
theorem reconcile_new_row {complete : Bool} {bucket : S3BucketContent}
    (read : readBucket config.poco config.bucketUri ctx.listing = some (complete, bucket))
    {done : Catalogue} (ran : reconcile config ctx c = some done) {row : Firmware}
    (present : row ∈ done.firmwares.rows) (new : ∀ before ∈ c.firmwares.rows, before.id ≠ row.id) :
    ∃ item : String × S3BucketEntry, (validatedMap config ctx bucket)[item.1]? = some item.2 ∧
      isStaging item.2 = false ∧ item.2.valid = true ∧
      (Sql.Plain config.type.dialect item.1 → Sql.Plain config.type.dialect item.2.compatible →
        (item.1, item.2.compatible) ∉ names c.firmwares.rows) ∧
      recordOf ctx.manifest item = row.unflagged := by
  -- A result means that the select statement was executed.
  have selected : ctx.manifest.selected = true := by
    cases executed : ctx.manifest.selected with
    | true => rfl
    | false =>
      simp [reconcile, read, addManifestToDB, executed,
        FirmwaresDB.removeOldDBEntriesNotInManifest] at ran
  obtain ⟨done', chosen, ran', entries, rows⟩ := reconcile_rows read selected (c := c)
  cases ran.symm.trans ran'
  have image : row.unflagged ∈ done.firmwares.rows.map Firmware.unflagged :=
    List.mem_map_of_mem present
  rw [rows] at image
  -- A row of the old table has an old id, so a new one belongs to a record.
  rcases List.mem_append.mp image with old | inserted
  · obtain ⟨before, inTable, alike⟩ := List.mem_map.mp old
    have ids := congrArg Firmware.id alike
    exact absurd ids (new before (List.mem_filter.mp inTable).1)
  · obtain ⟨item, member, alike⟩ := List.mem_map.mp inserted
    obtain ⟨found, build, valid, absent⟩ := entries item member
    exact ⟨item, found, build, valid, absent, alike⟩

/-- The generated ids are new to the table. -/
def NewIds (ctx : ManifestContext) (rows : List Firmware) : Prop :=
  ∀ r, ∀ row ∈ rows, row.id ≠ (ctx.addition r).uuid

/-- Every row that is young enough is still stored after the refresh. -/
def KeepsYoungRows (config : ManifestConfig) (ctx : RefreshContext) (c : Catalogue) : Prop :=
  ∀ row ∈ c.firmwares.rows, FirmwaresDB.Recent (ctx.removalTime - config.maxAge) row.imageDate →
    ∃ kept ∈ (refresh config ctx c).catalogue.firmwares.rows, kept.id = row.id

/-- A young row survives a refresh exactly when its release is listed. -/
theorem survives_iff {complete : Bool} {bucket : S3BucketContent}
    (read : readBucket config.poco config.bucketUri ctx.listing = some (complete, bucket))
    (selected : ctx.manifest.selected = true) (new : NewIds ctx.manifest c.firmwares.rows)
    {row : Firmware} (stored : row ∈ c.firmwares.rows)
    (young : FirmwaresDB.Recent (ctx.removalTime - config.maxAge) row.imageDate) :
    (∃ kept ∈ (refresh config ctx c).catalogue.firmwares.rows, kept.id = row.id) ↔
      Listed config ctx.listing.reached row.release := by
  have recent : row ∈ (FirmwaresDB.removeOldFirmware config.type ctx.removalTime config.maxAge
      c).firmwares.rows := by
    rw [FirmwaresDB.rows_removeOldFirmware, List.mem_filter]
    exact ⟨stored, by simpa using young⟩
  obtain ⟨done, chosen, ran, _, rows⟩ := reconcile_rows read selected
    (c := FirmwaresDB.removeOldFirmware config.type ctx.removalTime config.maxAge c)
  have left : (refresh config ctx c).catalogue = done := by
    rw [refresh, ran]
  rw [left]
  constructor
  · intro survives
    obtain ⟨kept, present, same⟩ := survives
    have image : kept.unflagged ∈ done.firmwares.rows.map Firmware.unflagged :=
      List.mem_map_of_mem present
    rw [rows] at image
    rcases List.mem_append.mp image with old | inserted
    · -- The id names one row only, so the row itself was kept.
      obtain ⟨before, inTable, alike⟩ := List.mem_map.mp old
      obtain ⟨remained, listed⟩ := List.mem_filter.mp inTable
      have ids := congrArg Firmware.id alike
      have one : before = row := KeyedTable.eq_of_key remained recent (ids.trans same)
      rw [one] at listed
      exact of_decide_eq_true listed
    · -- An inserted row has a new id.
      obtain ⟨item, _, alike⟩ := List.mem_map.mp inserted
      have ids := congrArg Firmware.id alike
      exact absurd (ids.trans same).symm (new item.1 row stored)
  · intro listed
    have image : row.unflagged ∈ done.firmwares.rows.map Firmware.unflagged := by
      rw [rows]
      refine List.mem_append_left _ (List.mem_map_of_mem (List.mem_filter.mpr ⟨recent, ?_⟩))
      exact decide_eq_true listed
    obtain ⟨kept, present, alike⟩ := List.mem_map.mp image
    have ids := congrArg Firmware.id alike
    exact ⟨kept, present, ids⟩

/--
After a failed listing, a refresh keeps every young row exactly when the objects read before the
failure list the releases of all of them.
-/
theorem keepsYoungRows_iff (config : ManifestConfig) (ctx : RefreshContext) (c : Catalogue)
    (failed : ∃ bucket, readBucket config.poco config.bucketUri ctx.listing = some (false, bucket))
    (selected : ctx.manifest.selected = true) (new : NewIds ctx.manifest c.firmwares.rows) :
    KeepsYoungRows config ctx c ↔
      ∀ row ∈ c.firmwares.rows, FirmwaresDB.Recent (ctx.removalTime - config.maxAge) row.imageDate →
        Listed config ctx.listing.reached row.release := by
  obtain ⟨bucket, read⟩ := failed
  refine forall_congr' fun row => forall_congr' fun stored => forall_congr' fun young => ?_
  exact survives_iff read selected new stored young

/-- A configuration whose bucket knows one manifest. -/
def oneManifest : ManifestConfig where
  type := .sqlite
  poco := manifestPoco
  bucketUri := "fw"
  maxAge := 100

/-- A refresh at time 1000 over given answers of the bucket. -/
def refreshOver (listing : Listing) : RefreshContext where
  removalTime := 1000
  listing := listing
  computeTime := 1000
  manifest := insertsAll

/-- A catalogue with one young row. -/
def oneYoungRow : Catalogue where
  firmwares := ⟨[{ id := "a", release := "r1", deviceType := "eap101", imageDate := 950 }],
    List.nodup_singleton _⟩

/-- The generated ids are new to that catalogue. -/
theorem newIds_oneYoungRow : NewIds insertsAll oneYoungRow.firmwares.rows := by
  intro r row stored same
  rw [List.mem_singleton.mp stored] at same
  -- A generated id is longer than the stored one.
  have lengths := congrArg String.length same
  simp only [insertsAll, String.length_append] at lengths
  have long : "new-".length = 4 := by decide
  have short : "a".length = 1 := by decide
  omega

/-- A listing that fails after its first page keeps the row whose image was on that page. -/
theorem keepsYoungRows_of_first_page :
    KeepsYoungRows oneManifest (refreshOver (.more [{ key := "r1-upgrade.bin" }] .failed))
      oneYoungRow :=
  (keepsYoungRows_iff oneManifest (refreshOver (.more [{ key := "r1-upgrade.bin" }] .failed))
    oneYoungRow ⟨_, rfl⟩ rfl newIds_oneYoungRow).mpr (by decide +kernel)

/-- A listing that fails at once costs a row that is young enough. -/
theorem failed_listing_costs_row :
    readBucket oneManifest.poco oneManifest.bucketUri .failed = some (false, ∅) ∧
      insertsAll.selected = true ∧ NewIds insertsAll oneYoungRow.firmwares.rows ∧
      ¬ KeepsYoungRows oneManifest (refreshOver .failed) oneYoungRow := by
  refine ⟨rfl, rfl, newIds_oneYoungRow, fun keeps => ?_⟩
  have none_ : (refresh oneManifest (refreshOver .failed) oneYoungRow).catalogue.firmwares.rows =
      [] := by decide +kernel
  obtain ⟨kept, present, _⟩ := keeps _ (List.mem_singleton.mpr rfl) (by decide)
  rw [none_] at present
  exact absurd present List.not_mem_nil

end Fms
