import Fms.Manifest.Provenance
import Fms.Poco.TextLaws

/-! Which releases are left out as staging builds, and which of them are staging builds by name. -/

namespace Fms

/-- The objects whose contents the entry of a release holds, its manifest and its image. -/
def builtFrom (poco : Poco) (release : String) (objects : List ListedObject) : List ListedObject :=
  (objects.filter fun o => (manifestOf poco release o).isSome).getLast?.toList ++
    (lastImage release objects).toList

/-- The file name of an object tells a staging build. -/
def isStagingFile (o : ListedObject) : Bool :=
  occursIn "-staging-" (getFileName o.key)

/--
Exactly the staging releases are excluded.

A release of the listing is dropped when one of the files it was built from is a staging build, and
no staging release is inserted.
-/
structure ExactlyStaging (config : ManifestConfig) (ctx : RefreshContext) (bucket : S3BucketContent)
    (c : Catalogue) : Prop where
  dropped : ∀ r, bucket.contains r = true →
    ((removeStaging (validatedMap config ctx bucket)).contains r = false ↔
      ∃ o ∈ builtFrom config.poco r ctx.listing.reached, isStagingFile o = true)
  inserted : ∀ done, reconcile config ctx c = some done → ∀ row ∈ done.firmwares.rows,
    (∀ before ∈ c.firmwares.rows, before.id ≠ row.id) → occursIn "-staging-" row.release = false

/--
The images tell the staging releases.

A release without an image has no staging name, and one with an image has the file name of a staging
build wherever the address of the bucket already looks like one.
-/
def ImagesTell (config : ManifestConfig) (objects : List ListedObject) : Prop :=
  ∀ r, match lastImage r objects with
    | none => (lastManifest config.poco r objects).isSome = true → occursIn "-staging-" r = false
    | some o => occursIn "-staging-" config.bucketUri = true → isStagingFile o = true

variable {config : ManifestConfig} {ctx : RefreshContext} {c : Catalogue}

/-- An address tells a staging build by the bucket in it or by the file name. -/
theorem occursIn_objectURI (bucketUri : String) (o : ListedObject) :
    occursIn "-staging-" (objectURI bucketUri o.key) = true ↔
      occursIn "-staging-" bucketUri = true ∨ isStagingFile o = true := by
  -- An address is the scheme, the bucket and the file name, with slashes between them.
  have slash : '/' ∉ "-staging-".toList := by decide
  have inner : occursIn "-staging-" ("https://" ++ bucketUri) = true ↔
      occursIn "-staging-" "https:/" = true ∨ occursIn "-staging-" bucketUri = true :=
    occursIn_append_cons_iff slash (by decide) "https:/" bucketUri (by simp)
  have scheme : occursIn "-staging-" "https:/" = false := by decide
  -- The name has no slash, so it lies between two of them.
  rw [occursIn_append_cons_iff slash (by decide) ("https://" ++ bucketUri) (getFileName o.key)
    (by simp [objectURI]), inner, scheme]
  simp [isStagingFile]

/-- The file name of a manifest tells a staging build exactly when its release does. -/
theorem isStagingFile_of_manifest {r : String} {o : ListedObject} {part : ManifestPart}
    (described : manifestOf config.poco r o = some part) :
    isStagingFile o = occursIn "-staging-" r := by
  obtain ⟨extension, baseName, _⟩ := manifestOf_eq_some.mp described
  have name := fileName_eq o.key (by rw [extension]; decide)
  rw [baseName, extension] at name
  -- The dot of the extension is in no staging name.
  rw [Bool.eq_iff_iff, isStagingFile,
    occursIn_append_cons_iff (by decide) (by decide) r "json" name]
  have suffix : occursIn "-staging-" "json" = false := by decide
  simp [suffix]

/-- The file name of an image tells a staging build when its release does. -/
theorem isStagingFile_of_image {r : String} {o : ListedObject} (isImage : isImageOf r o = true)
    (staging : occursIn "-staging-" r = true) : isStagingFile o = true := by
  -- The release is the front of the base name, which is the front of the file name.
  simp only [isImageOf, Bool.and_eq_true, decide_eq_true_eq] at isImage
  have front := (startsWith_dropLast 8 (getBaseName o.key)).trans (fileName_startsWith_baseName o.key)
  rw [← isImage.2] at staging
  exact occursIn_of_infix front.isInfix staging

/-- A release in the map has a manifest or an image among the objects read. -/
theorem described_of_contains {complete : Bool} {bucket : S3BucketContent}
    (read : readBucket config.poco config.bucketUri ctx.listing = some (complete, bucket)) {r : String}
    (listed : bucket.contains r = true) :
    (lastManifest config.poco r ctx.listing.reached).isSome = true ∨
      (lastImage r ctx.listing.reached).isSome = true := by
  -- An entry combines a manifest and an image, and one of them is there.
  rw [Std.ExtTreeMap.contains_eq_isSome_getElem?, Option.isSome_iff_exists] at listed
  obtain ⟨entry, found⟩ := listed
  have combined := combines_readBucket read r
  rw [found] at combined
  exact combined.2.1

/-- The objects of which some part can be read have a last one exactly when some part is the last. -/
theorem getLast?_filter_isSome {α β : Type} (f : α → Option β) (l : List α) :
    ((l.filter fun a => (f a).isSome).getLast?).isSome = ((l.filterMap f).getLast?).isSome := by
  -- The last object either can be read, and then it is the last one of both, or it is in neither.
  induction l using List.reverseRecOn with
  | nil => rfl
  | append_singleton front last ih =>
    rw [List.filter_append, List.filterMap_append]
    cases read : f last with
    | none => simpa [read] using ih
    | some value => simp [read]

/-- The files of a release tell a staging build by its name, or by the name of its image. -/
theorem exists_stagingFile_iff {r : String} {objects : List ListedObject} :
    (∃ o ∈ builtFrom config.poco r objects, isStagingFile o = true) ↔
      ((lastManifest config.poco r objects).isSome = true ∧ occursIn "-staging-" r = true) ∨
        ∃ o, lastImage r objects = some o ∧ isStagingFile o = true := by
  -- The manifest counts by the name of the release, so the two sides differ in nothing else.
  have manifests := getLast?_filter_isSome (manifestOf config.poco r) objects
  simp only [builtFrom, List.mem_append, Option.mem_toList, or_and_right, exists_or]
  refine or_congr_left ?_
  rw [lastManifest, ← manifests]
  cases last : (objects.filter fun o => (manifestOf config.poco r o).isSome).getLast? with
  | none => simp
  | some o =>
    -- The last object that can be read has a manifest of the release.
    obtain ⟨_, readable⟩ := List.mem_filter.mp (List.mem_of_getLast? last)
    obtain ⟨part, described⟩ := Option.isSome_iff_exists.mp readable
    simp [isStagingFile_of_manifest described]

/-- A listed release is dropped when the address of its image tells a staging build. -/
theorem dropped_iff {complete : Bool} {bucket : S3BucketContent}
    (read : readBucket config.poco config.bucketUri ctx.listing = some (complete, bucket)) {r : String}
    (listed : bucket.contains r = true) :
    (removeStaging (validatedMap config ctx bucket)).contains r = false ↔
      ∃ o, lastImage r ctx.listing.reached = some o ∧
        (occursIn "-staging-" config.bucketUri = true ∨ isStagingFile o = true) := by
  -- The address of the image is all that the map is filtered by.
  have described := described_of_contains read listed
  rw [← Bool.not_eq_true, contains_validatedMap read, Listed]
  simp only [described, true_and, ← occursIn_objectURI, not_forall, Bool.not_eq_false, exists_prop]

/-- For a listed release the two notions agree exactly when the images tell. -/
theorem dropped_iff_staging {complete : Bool} {bucket : S3BucketContent}
    (read : readBucket config.poco config.bucketUri ctx.listing = some (complete, bucket)) {r : String}
    (listed : bucket.contains r = true) :
    ((removeStaging (validatedMap config ctx bucket)).contains r = false ↔
        ∃ o ∈ builtFrom config.poco r ctx.listing.reached, isStagingFile o = true) ↔
      match lastImage r ctx.listing.reached with
      | none => (lastManifest config.poco r ctx.listing.reached).isSome = true →
          occursIn "-staging-" r = false
      | some o => occursIn "-staging-" config.bucketUri = true → isStagingFile o = true := by
  rw [dropped_iff read listed, exists_stagingFile_iff]
  cases last : lastImage r ctx.listing.reached with
  | none => simp
  | some o =>
    -- The name of the image contains the name of the release.
    have named := isStagingFile_of_image (mem_of_lastImage last).2
    simp only [Option.some.injEq, exists_eq_left']
    constructor
    · intro agree bucketStaging
      rcases agree.mp (Or.inl bucketStaging) with ⟨_, staging⟩ | file
      · exact named staging
      · exact file
    · intro tells
      constructor
      · rintro (bucketStaging | file)
        · exact Or.inr (tells bucketStaging)
        · exact Or.inr file
      · rintro (⟨_, staging⟩ | file)
        · exact Or.inr (named staging)
        · exact Or.inr file

/--
Exactly the staging releases are excluded if and only if the images tell the staging releases.

This holds for every listing that does not throw, every address of the bucket and every table.
-/
theorem exactlyStaging_iff (config : ManifestConfig) (ctx : RefreshContext) (c : Catalogue)
    {complete : Bool} {bucket : S3BucketContent}
    (read : readBucket config.poco config.bucketUri ctx.listing = some (complete, bucket)) :
    ExactlyStaging config ctx bucket c ↔ ImagesTell config ctx.listing.reached := by
  constructor
  · intro exactly r
    by_cases listed : bucket.contains r = true
    · exact (dropped_iff_staging read listed).mp (exactly.dropped r listed)
    · -- A release that is not listed has neither a manifest nor an image.
      have combined := combines_readBucket read r
      have absent : bucket[r]? = none := by
        rw [Std.ExtTreeMap.contains_eq_isSome_getElem?, Option.not_isSome_iff_eq_none] at listed
        exact listed
      rw [absent] at combined
      rw [combined.2]
      intro manifest
      rw [combined.1] at manifest
      contradiction
  · intro tells
    -- The releases that are inserted are among those that were not dropped.
    have dropped (r : String) (listed : bucket.contains r = true) :=
      (dropped_iff_staging read listed).mpr (tells r)
    refine ⟨dropped, ?_⟩
    intro done ran row present new
    obtain ⟨item, found, build, _, _, alike⟩ := reconcile_new_row read ran present new
    have release : row.release = item.1 := (congrArg Firmware.release alike).symm
    have listed : bucket.contains item.1 = true := by
      rw [validatedMap, getElem?_computeManifest, Option.map_eq_some_iff] at found
      obtain ⟨entry, inBucket, _⟩ := found
      rw [Std.ExtTreeMap.contains_eq_isSome_getElem?, inBucket, Option.isSome_some]
    -- The release was not dropped, so none of its files is one of a staging build.
    have stays : ¬ ∃ o ∈ builtFrom config.poco item.1 ctx.listing.reached, isStagingFile o = true := by
      rw [← dropped item.1 listed, contains_removeStaging.mpr ⟨item.2, found, build⟩]
      simp
    rw [exists_stagingFile_iff, not_or] at stays
    rw [release]
    by_contra staging
    rw [Bool.not_eq_false] at staging
    rcases described_of_contains read listed with manifest | image
    · exact stays.1 ⟨manifest, staging⟩
    · obtain ⟨o, last⟩ := Option.isSome_iff_exists.mp image
      exact stays.2 ⟨o, last, isStagingFile_of_image (mem_of_lastImage last).2 staging⟩

/-- A release with both objects, in a bucket without a staging name, is treated by its own name. -/
theorem exactlyStaging_bothObjects :
    ∃ complete bucket,
      readBucket oneManifest.poco oneManifest.bucketUri bothObjects = some (complete, bucket) ∧
        ExactlyStaging oneManifest (refreshOver bothObjects) bucket {} := by
  -- Nothing of this listing has a staging name, and neither has the bucket.
  have reads : (readBucket oneManifest.poco oneManifest.bucketUri bothObjects).isSome = true := by
    decide +kernel
  obtain ⟨⟨complete, bucket⟩, read⟩ := Option.isSome_iff_exists.mp reads
  refine ⟨complete, bucket, read, (exactlyStaging_iff oneManifest (refreshOver bothObjects) {} read).mpr
    fun r => ?_⟩
  have plainBucket : occursIn "-staging-" oneManifest.bucketUri = false := by decide
  cases lastImage r (refreshOver bothObjects).listing.reached with
  | some o => exact fun staging => absurd (plainBucket.symm.trans staging) (by decide)
  | none =>
    intro manifest
    obtain ⟨part, last⟩ := Option.isSome_iff_exists.mp manifest
    rw [(lastManifest_bothObjects last).1]
    decide

/-- A manifest text of a staging release. -/
def stagingText : String :=
  "\x7b\"image\":\"r1-staging-2-upgrade.bin\",\"compatible\":\"eap101\",\"revision\":\"v1\"," ++
    "\"timestamp\":200\x7d"

/-- A configuration whose library reads that manifest. -/
def stagingManifest : ManifestConfig where
  type := .sqlite
  poco := Poco.onDocuments [(stagingText, .object [("image", .string "r1-staging-2-upgrade.bin"),
    ("compatible", .string "eap101"), ("revision", .string "v1"), ("timestamp", .int 200)])]
  bucketUri := "fw"
  maxAge := 100

/-- A refresh whose bucket lists the manifest of a staging release, and no image of it. -/
def stagingRefresh : RefreshContext :=
  { refreshOver (.last [{ key := "r1-staging-2.json", content := some stagingText }]) with
    computeTime := 200 }

/-- A staging release without an image has no address to tell it by, and is inserted. -/
theorem staging_inserted :
    ¬ ∀ (config : ManifestConfig) (ctx : RefreshContext) (c : Catalogue) (complete : Bool)
      (bucket : S3BucketContent),
      readBucket config.poco config.bucketUri ctx.listing = some (complete, bucket) →
      ExactlyStaging config ctx bucket c := by
  -- The release is inserted as a row that was not there before.
  intro exactly
  have rows : (reconcile stagingManifest stagingRefresh {}).map
      (fun done => done.firmwares.rows) = some [{
        id := "new-r1-staging-2", release := "r1-staging-2", deviceType := "eap101", revision := "v1",
        image := "r1-staging-2-upgrade.bin", latest := true }] := by decide +kernel
  have reads : (readBucket stagingManifest.poco stagingManifest.bucketUri
      stagingRefresh.listing).isSome = true := by decide +kernel
  obtain ⟨⟨complete, bucket⟩, read⟩ := Option.isSome_iff_exists.mp reads
  obtain ⟨done, ran, stored⟩ := Option.map_eq_some_iff.mp rows
  -- The row is new to the empty table, so it should have no staging name.
  have excluded := (exactly _ _ {} complete bucket read).inserted done ran _
    (by rw [stored]; exact List.mem_singleton.mpr rfl) fun _ present => absurd present List.not_mem_nil
  exact absurd excluded (by decide)

end Fms
