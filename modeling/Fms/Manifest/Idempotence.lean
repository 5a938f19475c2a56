import Fms.Manifest.Provenance

/-! When a second refresh over the same bucket finds nothing left to do. -/

namespace Fms

/-- A second refresh sees the bucket and the clocks of the first one. -/
structure SameInputs (ctx again : RefreshContext) : Prop where
  removalTime : again.removalTime = ctx.removalTime
  listing : again.listing = ctx.listing
  computeTime : again.computeTime = ctx.computeTime

/-- Two such refreshes validate the same map. -/
theorem SameInputs.validatedMap {config : ManifestConfig} {ctx again : RefreshContext}
    (same : SameInputs ctx again) (bucket : S3BucketContent) :
    validatedMap config again bucket = validatedMap config ctx bucket := by
  rw [Fms.validatedMap, Fms.validatedMap, same.computeTime]

/-- The second of two refreshes leaves the ids that the first one left. -/
def RefreshIdempotent (config : ManifestConfig) (ctx again : RefreshContext) (c : Catalogue) : Prop :=
  ∀ id : String,
    id ∈ (refresh config again (refresh config ctx c).catalogue).catalogue.firmwares.rows.map
        Firmware.id ↔
      id ∈ (refresh config ctx c).catalogue.firmwares.rows.map Firmware.id

/-- The image date a row of a release is given: zero where no `.bin` object was read. -/
def imageDateOf (config : ManifestConfig) (objects : List ListedObject) (release : String) : UInt64 :=
  (((lastImage release objects).map (ListedObject.imagePart config.bucketUri)).getD {}).timeStamp

/--
No release with a plain name is young by its manifest and old by its image.

Releases that a young row names already are left out, because nothing is inserted for them.
-/
def ImagesYoung (config : ManifestConfig) (ctx : RefreshContext) (c : Catalogue) : Prop :=
  ∀ release part, Accepted config ctx release part →
    Listed config ctx.listing.reached release →
    Sql.Plain config.type.dialect release → Sql.Plain config.type.dialect part.fields.compatible →
    (∀ row ∈ c.firmwares.rows, row.name = (release, part.fields.compatible) →
      ¬ FirmwaresDB.Recent (ctx.removalTime - config.maxAge) row.imageDate) →
    FirmwaresDB.Recent (ctx.removalTime - config.maxAge) (imageDateOf config ctx.listing.reached release)

/-- The releases that may be inserted, and their device types, hold no quotes. -/
def PlainManifests (config : ManifestConfig) (ctx : RefreshContext) : Prop :=
  ∀ release part, Accepted config ctx release part → Listed config ctx.listing.reached release →
    Sql.Plain config.type.dialect release ∧ Sql.Plain config.type.dialect part.fields.compatible

variable {config : ManifestConfig} {ctx again : RefreshContext} {c : Catalogue}

/-- The table a refresh reconciles: the old rows are removed from it. -/
def recent (config : ManifestConfig) (ctx : RefreshContext) (c : Catalogue) : Catalogue :=
  FirmwaresDB.removeOldFirmware config.type ctx.removalTime config.maxAge c

/-- The recent rows are the stored ones whose image is young enough. -/
theorem mem_recent {row : Firmware} :
    row ∈ (recent config ctx c).firmwares.rows ↔
      row ∈ c.firmwares.rows ∧ FirmwaresDB.Recent (ctx.removalTime - config.maxAge) row.imageDate := by
  -- Removing the old rows keeps those at or above the limit.
  rw [recent, FirmwaresDB.rows_removeOldFirmware, List.mem_filter, decide_eq_true_iff]

/-- A name is free among the recent rows when only old rows have it. -/
theorem name_not_mem_recent {name : String × String} :
    name ∉ names (recent config ctx c).firmwares.rows ↔
      ∀ row ∈ c.firmwares.rows, row.name = name →
        ¬ FirmwaresDB.Recent (ctx.removalTime - config.maxAge) row.imageDate := by
  -- A recent row is a stored one that is not old.
  simp only [names, List.mem_map, mem_recent, not_exists, not_and, and_imp]
  constructor
  · intro free row stored named
    by_contra young
    exact free row stored young named
  · intro old row stored young named
    exact old row stored named young

/-- A valid entry of the map dates its image as the last `.bin` object does. -/
theorem imageDate_of_valid (noDocument : config.poco.parseObject "" = none) {complete : Bool}
    {bucket : S3BucketContent}
    (read : readBucket config.poco config.bucketUri ctx.listing = some (complete, bucket))
    {r : String} {entry : S3BucketEntry} (found : (validatedMap config ctx bucket)[r]? = some entry)
    (valid : entry.valid = true) :
    ∃ part, Accepted config ctx r part ∧ entry.compatible = part.fields.compatible ∧
      entry.s3TimeStamp = imageDateOf config ctx.listing.reached r := by
  -- The entry takes the whole part of the last object, and the date with it.
  obtain ⟨part, accepted, type, _, described⟩ := fields_of_valid noDocument read found valid
  exact ⟨part, accepted, type, congrArg ImagePart.timeStamp described⟩

/-- A row that a refresh leaves is a recent row of a listed release, or the record of a valid entry. -/
theorem row_of_refresh {complete : Bool} {bucket : S3BucketContent}
    (read : readBucket config.poco config.bucketUri ctx.listing = some (complete, bucket))
    (selected : ctx.manifest.selected = true) {row : Firmware}
    (left : row ∈ (refresh config ctx c).catalogue.firmwares.rows) :
    (∃ before ∈ (recent config ctx c).firmwares.rows,
        Listed config ctx.listing.reached before.release ∧ before.unflagged = row.unflagged) ∨
      ∃ r entry, (validatedMap config ctx bucket)[r]? = some entry ∧ isStaging entry = false ∧
        entry.valid = true ∧
        (Sql.Plain config.type.dialect r → Sql.Plain config.type.dialect entry.compatible →
          (r, entry.compatible) ∉ names (recent config ctx c).firmwares.rows) ∧
        row.unflagged = recordOf ctx.manifest (r, entry) := by
  obtain ⟨done, chosen, ran, entries, rows⟩ := reconcile_rows read selected (c := recent config ctx c)
  have outcome : (refresh config ctx c).catalogue = done := by
    rw [refresh, ← recent, ran]
  rw [outcome] at left
  have image : row.unflagged ∈ done.firmwares.rows.map Firmware.unflagged :=
    List.mem_map_of_mem left
  rw [rows] at image
  -- The rows after the refresh are the listed recent ones, and then the records of the entries.
  rcases List.mem_append.mp image with old | new
  · obtain ⟨before, stays, alike⟩ := List.mem_map.mp old
    obtain ⟨stored, listed⟩ := List.mem_filter.mp stays
    exact Or.inl ⟨before, stored, of_decide_eq_true listed, alike⟩
  · obtain ⟨item, member, alike⟩ := List.mem_map.mp new
    obtain ⟨found, build, valid, free⟩ := entries item member
    exact Or.inr ⟨item.1, item.2, found, build, valid, free, alike.symm⟩

/-- A recent row of a listed release is still there after the refresh, up to its flag. -/
theorem refresh_keeps {complete : Bool} {bucket : S3BucketContent}
    (read : readBucket config.poco config.bucketUri ctx.listing = some (complete, bucket))
    (selected : ctx.manifest.selected = true) {row : Firmware}
    (stored : row ∈ (recent config ctx c).firmwares.rows)
    (listed : Listed config ctx.listing.reached row.release) :
    ∃ kept ∈ (refresh config ctx c).catalogue.firmwares.rows, kept.unflagged = row.unflagged := by
  obtain ⟨done, chosen, ran, _, rows⟩ := reconcile_rows read selected (c := recent config ctx c)
  have outcome : (refresh config ctx c).catalogue = done := by
    rw [refresh, ← recent, ran]
  rw [outcome]
  refine List.mem_map.mp ?_
  rw [rows]
  refine List.mem_append_left _ (List.mem_map_of_mem (List.mem_filter.mpr ⟨stored, ?_⟩))
  exact decide_eq_true listed

/-- A valid entry with a free plain name has a record after the refresh. -/
theorem refresh_inserts {complete : Bool} {bucket : S3BucketContent}
    (read : readBucket config.poco config.bucketUri ctx.listing = some (complete, bucket))
    (selected : ctx.manifest.selected = true)
    (succeeds : ∀ releases, ctx.manifest.Succeeds releases c.firmwares.rows) {r : String}
    {entry : S3BucketEntry} (found : (validatedMap config ctx bucket)[r]? = some entry)
    (build : isStaging entry = false) (valid : entry.valid = true)
    (plainRelease : Sql.Plain config.type.dialect r)
    (plainType : Sql.Plain config.type.dialect entry.compatible)
    (free : (r, entry.compatible) ∉ names (recent config ctx c).firmwares.rows) :
    ∃ row ∈ (refresh config ctx c).catalogue.firmwares.rows,
      row.unflagged = recordOf ctx.manifest (r, entry) := by
  -- New ids for the whole table are new for its recent rows.
  have statements : ∀ releases,
      ctx.manifest.Succeeds releases (recent config ctx c).firmwares.rows := fun releases =>
    ⟨(succeeds releases).executed, fun release member row stored =>
      (succeeds releases).fresh release member row (mem_recent.mp stored).1,
      (succeeds releases).distinct⟩
  obtain ⟨done, row, ran, present, alike⟩ := reconcile_inserts read selected statements found build
    valid plainRelease plainType free
  have outcome : (refresh config ctx c).catalogue = done := by
    rw [refresh, ← recent, ran]
  exact ⟨row, outcome ▸ present, alike⟩

/-- The releases of the valid entries that stay in the map are listed and plain. -/
theorem plain_of_valid (noDocument : config.poco.parseObject "" = none)
    (plain : PlainManifests config ctx) {complete : Bool} {bucket : S3BucketContent}
    (read : readBucket config.poco config.bucketUri ctx.listing = some (complete, bucket))
    {r : String} {entry : S3BucketEntry} (found : (validatedMap config ctx bucket)[r]? = some entry)
    (build : isStaging entry = false) (valid : entry.valid = true) :
    Listed config ctx.listing.reached r ∧ Sql.Plain config.type.dialect r ∧
      Sql.Plain config.type.dialect entry.compatible := by
  -- An entry of the map belongs to a listed release, and its type is that of the manifest.
  have listed : Listed config ctx.listing.reached r :=
    (contains_validatedMap read r).mp (contains_removeStaging.mpr ⟨entry, found, build⟩)
  obtain ⟨part, accepted, type, _⟩ := imageDate_of_valid noDocument read found valid
  obtain ⟨plainRelease, plainType⟩ := plain r part accepted listed
  exact ⟨listed, plainRelease, type ▸ plainType⟩

/-- Once its images are young, a refresh leaves young rows of listed releases only. -/
theorem settled_of_imagesYoung (noDocument : config.poco.parseObject "" = none)
    (plain : PlainManifests config ctx) (young : ImagesYoung config ctx c) {complete : Bool}
    {bucket : S3BucketContent}
    (read : readBucket config.poco config.bucketUri ctx.listing = some (complete, bucket))
    (selected : ctx.manifest.selected = true) {row : Firmware}
    (left : row ∈ (refresh config ctx c).catalogue.firmwares.rows) :
    FirmwaresDB.Recent (ctx.removalTime - config.maxAge) row.imageDate ∧
      Listed config ctx.listing.reached row.release := by
  -- A row is left from before, or it was inserted by this refresh.
  rcases row_of_refresh read selected left with
    ⟨before, stored, listed, alike⟩ | ⟨r, entry, found, build, valid, free, alike⟩
  · -- An old row was checked by both rules already.
    have dates := congrArg Firmware.imageDate alike
    have releases := congrArg Firmware.release alike
    exact ⟨dates ▸ (mem_recent.mp stored).2, releases ▸ listed⟩
  · -- A new row has the date of its image and the release of its entry.
    have dates : row.imageDate = entry.s3TimeStamp := congrArg Firmware.imageDate alike
    have releases : row.release = r := congrArg Firmware.release alike
    obtain ⟨listed, plainRelease, plainType⟩ :=
      plain_of_valid noDocument plain read found build valid
    obtain ⟨part, accepted, type, date⟩ := imageDate_of_valid noDocument read found valid
    have unnamed := name_not_mem_recent.mp (free plainRelease plainType)
    rw [type] at unnamed plainType
    rw [dates, releases, date]
    exact ⟨young r part accepted listed plainRelease plainType unnamed, listed⟩

/-- After a refresh, every valid entry that stays in the map has a row of its name. -/
theorem named_after_refresh (noDocument : config.poco.parseObject "" = none)
    (plain : PlainManifests config ctx) {complete : Bool} {bucket : S3BucketContent}
    (read : readBucket config.poco config.bucketUri ctx.listing = some (complete, bucket))
    (selected : ctx.manifest.selected = true)
    (succeeds : ∀ releases, ctx.manifest.Succeeds releases c.firmwares.rows) {r : String}
    {entry : S3BucketEntry} (found : (validatedMap config ctx bucket)[r]? = some entry)
    (build : isStaging entry = false) (valid : entry.valid = true) :
    (r, entry.compatible) ∈ names (refresh config ctx c).catalogue.firmwares.rows := by
  obtain ⟨listed, plainRelease, plainType⟩ :=
    plain_of_valid noDocument plain read found build valid
  by_cases taken : (r, entry.compatible) ∈ names (recent config ctx c).firmwares.rows
  · -- The row that has the name already is of a listed release, so it stays.
    obtain ⟨row, stored, named⟩ := List.mem_map.mp taken
    have release : row.release = r := congrArg Prod.fst named
    obtain ⟨kept, present, alike⟩ := refresh_keeps read selected stored (release ▸ listed)
    have same := congrArg Firmware.name alike
    exact List.mem_map.mpr ⟨kept, present, same.trans named⟩
  · obtain ⟨row, present, alike⟩ := refresh_inserts read selected succeeds found build valid
      plainRelease plainType taken
    have named : row.name = (r, entry.compatible) := congrArg Firmware.name alike
    exact List.mem_map.mpr ⟨row, present, named⟩

/-- With young images, the second refresh keeps every row and inserts none. -/
theorem refreshIdempotent_of_imagesYoung (same : SameInputs ctx again)
    (noDocument : config.poco.parseObject "" = none) (plain : PlainManifests config ctx)
    (young : ImagesYoung config ctx c)
    (reads : (readBucket config.poco config.bucketUri ctx.listing).isSome = true)
    (selected : ctx.manifest.selected = true) (selectedAgain : again.manifest.selected = true)
    (succeeds : ∀ releases, ctx.manifest.Succeeds releases c.firmwares.rows) :
    RefreshIdempotent config ctx again c := by
  obtain ⟨⟨complete, bucket⟩, read⟩ := Option.isSome_iff_exists.mp reads
  have readAgain := read
  rw [← same.listing] at readAgain
  -- Every row the first refresh leaves is recent and listed for the second one.
  have settled : ∀ row ∈ (refresh config ctx c).catalogue.firmwares.rows,
      row ∈ (recent config again (refresh config ctx c).catalogue).firmwares.rows ∧
        Listed config again.listing.reached row.release := by
    intro row left
    obtain ⟨dated, listed⟩ := settled_of_imagesYoung noDocument plain young read selected left
    rw [mem_recent, same.removalTime, same.listing]
    exact ⟨⟨left, dated⟩, listed⟩
  -- Each side is contained in the other: nothing is inserted, and nothing is removed.
  intro id
  constructor
  · intro present
    obtain ⟨row, left, rfl⟩ := List.mem_map.mp present
    rcases row_of_refresh readAgain selectedAgain left with
      ⟨before, stored, _, alike⟩ | ⟨r, entry, found, build, valid, free, _⟩
    · have ids := congrArg Firmware.id alike
      exact List.mem_map.mpr ⟨before, (mem_recent.mp stored).1, ids⟩
    · -- The entry's name was taken, and its row is recent, so nothing was inserted for it.
      rw [same.validatedMap] at found
      obtain ⟨_, plainRelease, plainType⟩ := plain_of_valid noDocument plain read found build valid
      obtain ⟨taken, stored, name⟩ := List.mem_map.mp
        (named_after_refresh noDocument plain read selected succeeds found build valid)
      have named := List.mem_map.mpr ⟨taken, (settled taken stored).1, name⟩
      exact absurd named (free plainRelease plainType)
  · intro present
    obtain ⟨row, stored, rfl⟩ := List.mem_map.mp present
    obtain ⟨isRecent, listed⟩ := settled row stored
    obtain ⟨kept, left, alike⟩ := refresh_keeps readAgain selectedAgain isRecent listed
    have ids := congrArg Firmware.id alike
    exact List.mem_map.mpr ⟨kept, left, ids⟩

/-- When the second refresh leaves the ids alone, the first inserted no plain row with an old image. -/
theorem imagesYoung_of_refreshIdempotent (same : SameInputs ctx again)
    (reads : (readBucket config.poco config.bucketUri ctx.listing).isSome = true)
    (selected : ctx.manifest.selected = true) (selectedAgain : again.manifest.selected = true)
    (succeeds : ∀ releases, ctx.manifest.Succeeds releases c.firmwares.rows)
    (new : NewIds again.manifest (refresh config ctx c).catalogue.firmwares.rows)
    (idempotent : RefreshIdempotent config ctx again c) : ImagesYoung config ctx c := by
  intro r part accepted listed plainRelease plainType unnamed
  obtain ⟨⟨complete, bucket⟩, read⟩ := Option.isSome_iff_exists.mp reads
  -- The first refresh inserts a row for the release.
  obtain ⟨entry, found, build, valid, type, described⟩ := entry_of_listed read accepted listed
  rw [← type] at plainType unnamed
  obtain ⟨row, inserted, alike⟩ := refresh_inserts read selected succeeds found build valid
    plainRelease plainType (name_not_mem_recent.mpr unnamed)
  have dated : entry.s3TimeStamp = imageDateOf config ctx.listing.reached r :=
    congrArg ImagePart.timeStamp described
  have dates : row.imageDate = entry.s3TimeStamp := congrArg Firmware.imageDate alike
  rw [← dated, ← dates]
  -- Its id is still there after the second one, so the row itself was recent then.
  obtain ⟨kept, left, ids⟩ := List.mem_map.mp
    ((idempotent row.id).mpr (List.mem_map_of_mem inserted))
  rw [← same.listing] at read
  -- The row with that id was not inserted by the second refresh, so it survived the removal.
  rcases row_of_refresh read selectedAgain left with
    ⟨before, stored, _, copied⟩ | ⟨other, record, _, _, _, _, copied⟩
  · obtain ⟨inTable, isRecent⟩ := mem_recent.mp stored
    have sameIds := congrArg Firmware.id copied
    have one : before = row := KeyedTable.eq_of_key inTable inserted (sameIds.trans ids)
    rw [one, same.removalTime] at isRecent
    exact isRecent
  · -- A row inserted by the second refresh has a new id.
    have sameIds := congrArg Firmware.id copied
    exact absurd (ids.symm.trans sameIds) (new other row inserted)

/--
When a second refresh over the same bucket at the same time changes no ids, no release with a plain
name that the first could insert is young by its manifest and old by its image.

The two are equivalent when all those releases have plain names: a quote in a name changes what the
lookup before the insertion asks for.
-/
theorem refreshIdempotent_iff (config : ManifestConfig) (ctx again : RefreshContext) (c : Catalogue)
    (same : SameInputs ctx again) (noDocument : config.poco.parseObject "" = none)
    (reads : (readBucket config.poco config.bucketUri ctx.listing).isSome = true)
    (selected : ctx.manifest.selected = true) (selectedAgain : again.manifest.selected = true)
    (succeeds : ∀ releases, ctx.manifest.Succeeds releases c.firmwares.rows)
    (new : NewIds again.manifest (refresh config ctx c).catalogue.firmwares.rows) :
    (RefreshIdempotent config ctx again c → ImagesYoung config ctx c) ∧
      (PlainManifests config ctx →
        (RefreshIdempotent config ctx again c ↔ ImagesYoung config ctx c)) := by
  -- One direction follows the row of a release through both refreshes, the other one all rows.
  have needed : RefreshIdempotent config ctx again c → ImagesYoung config ctx c :=
    imagesYoung_of_refreshIdempotent same reads selected selectedAgain succeeds new
  refine ⟨needed, fun plain => ⟨needed, fun young => ?_⟩⟩
  exact refreshIdempotent_of_imagesYoung same noDocument plain young reads selected selectedAgain
    succeeds

/-- A refresh at time 200 over given answers of the bucket. -/
def refreshAt200 (listing : Listing) : RefreshContext where
  removalTime := 200
  listing := listing
  computeTime := 200
  manifest := insertsAll

/-- The same refresh a second time, under ids of its own. -/
def refreshAgain (listing : Listing) : RefreshContext :=
  { refreshAt200 listing with
    manifest := {
      created := fun _ => 0
      addition := fun release => { uuid := "again-" ++ release } } }

/-- The second refresh never takes an id that the first one generated. -/
theorem again_ne_new (left right : String) : "new-" ++ left ≠ "again-" ++ right := by
  intro same
  -- The two ids differ in their first character.
  have characters := congrArg String.toList same
  simp only [String.toList_append] at characters
  have heads := congrArg List.head? characters
  exact absurd heads (by simp)

/-- With both objects of the release young, the second refresh changes no ids. -/
theorem refreshIdempotent_bothObjects :
    RefreshIdempotent oneManifest (refreshAt200 bothObjects) (refreshAgain bothObjects) {} := by
  have ids : (refresh oneManifest (refreshAt200 bothObjects) {}).catalogue.firmwares.rows.map
      Firmware.id = ["new-r1"] := by decide +kernel
  -- Image and manifest are of one age, so the condition can be evaluated.
  refine ((refreshIdempotent_iff oneManifest (refreshAt200 bothObjects) (refreshAgain bothObjects)
    {} ⟨rfl, rfl, rfl⟩ rfl (by decide +kernel) rfl rfl insertsAll_succeeds ?_).2 ?_).mpr ?_
  · intro r row stored same
    have id : row.id = "new-" ++ "r1" := by
      have member := List.mem_map_of_mem (f := Firmware.id) stored
      rw [ids] at member
      exact List.mem_singleton.mp member
    exact again_ne_new "r1" r (id.symm.trans same)
  · intro r part accepted _
    rw [(lastManifest_bothObjects accepted.1).1, (lastManifest_bothObjects accepted.1).2]
    decide
  · intro r part accepted _ _ _ _
    rw [(lastManifest_bothObjects accepted.1).1]
    decide +kernel

/-- The `.bin` object of the release `r1`, older than the manifest beside it. -/
def oldImageObject : ListedObject :=
  { imageObject with lastModifiedMillis := 50000 }

/-- A listing of the young manifest and the old image. -/
def oldImageListing : Listing := .last [manifestObject, oldImageObject]

/-- A release with a young manifest and an old image is inserted anew by every refresh. -/
theorem reinserted_with_old_image :
    SameInputs (refreshAt200 oldImageListing) (refreshAgain oldImageListing) ∧
      (∃ bucket, readBucket oneManifest.poco oneManifest.bucketUri oldImageListing =
        some (true, bucket)) ∧
      (∀ releases, insertsAll.Succeeds releases []) ∧
      ¬ RefreshIdempotent oneManifest (refreshAt200 oldImageListing)
        (refreshAgain oldImageListing) {} := by
  refine ⟨⟨rfl, rfl, rfl⟩, ?_, insertsAll_succeeds, fun idempotent => ?_⟩
  · have complete : (readBucket oneManifest.poco oneManifest.bucketUri oldImageListing).map
        Prod.fst = some true := by decide +kernel
    obtain ⟨⟨finished, bucket⟩, read, rfl⟩ := Option.map_eq_some_iff.mp complete
    exact ⟨bucket, read⟩
  · -- The row with the old image is removed and inserted again, under another id.
    have first : (refresh oneManifest (refreshAt200 oldImageListing) {}).catalogue.firmwares.rows.map
        Firmware.id = ["new-r1"] := by decide +kernel
    have second : (refresh oneManifest (refreshAgain oldImageListing)
        (refresh oneManifest (refreshAt200 oldImageListing) {}).catalogue).catalogue.firmwares.rows.map
          Firmware.id = ["again-r1"] := by decide +kernel
    have same := idempotent "new-r1"
    rw [first, second] at same
    exact absurd (same.mpr (List.mem_singleton.mpr rfl)) (by decide)

end Fms
