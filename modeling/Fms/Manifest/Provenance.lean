import Fms.Manifest.Refresh

/-! Which bucket objects an inserted row comes from. -/

namespace Fms

/-- A row has the `.json` object of its release and the `.bin` object it names, and describes the latter. -/
structure Matches (config : ManifestConfig) (objects : List ListedObject) (row : Firmware) : Prop where
  image : row.image = row.release ++ "-upgrade.bin"
  uri : row.uri = "https://" ++ config.bucketUri ++ "/" ++ row.image
  manifest : ∃ o ∈ objects, getExtension o.key = "json" ∧ getBaseName o.key = row.release
  source : ∃ o ∈ objects, getExtension o.key = "bin" ∧ getFileName o.key = row.image ∧
    row.size = objectSize o ∧ row.imageDate = lastModifiedSeconds o

/-- Every row a reconciliation inserts matches objects of its listing. -/
def InsertedMatch (config : ManifestConfig) (ctx : RefreshContext) (c : Catalogue) : Prop :=
  ∀ done, reconcile config ctx c = some done → ∀ row ∈ done.firmwares.rows,
    (∀ before ∈ c.firmwares.rows, before.id ≠ row.id) → Matches config ctx.listing.objects row

/-- The last manifest read of a release would have it inserted. -/
def Accepted (config : ManifestConfig) (ctx : RefreshContext) (release : String)
    (part : ManifestPart) : Prop :=
  lastManifest config.poco release ctx.listing.reached = some part ∧
    ctx.computeTime - config.maxAge < part.fields.timestamp ∧
    part.fields.image = release ++ "-upgrade.bin"

/-- A row with a plain release and device type already has this name. -/
def StoredByName (config : ManifestConfig) (c : Catalogue) (release deviceType : String) : Prop :=
  Sql.Plain config.type.dialect release ∧ Sql.Plain config.type.dialect deviceType ∧
    (release, deviceType) ∈ names c.firmwares.rows

/--
Every release that would be inserted has its own image.

That is, the last `.bin` object read whose base name without eight characters is the release is called
exactly `<release>-upgrade.bin`. Releases whose last image is a staging build are left out, and so are
those stored already.
-/
def ImagesNamed (config : ManifestConfig) (ctx : RefreshContext) (c : Catalogue) : Prop :=
  ∀ release part, Accepted config ctx release part →
    Listed config ctx.listing.reached release →
    ¬ StoredByName config c release part.fields.compatible →
    ∃ o, lastImage release ctx.listing.reached = some o ∧
      getFileName o.key = release ++ "-upgrade.bin"

variable {config : ManifestConfig} {ctx : RefreshContext} {c : Catalogue}

/-- A valid entry takes its fields from the last manifest of its release. -/
theorem fields_of_valid (noDocument : config.poco.parseObject "" = none) {complete : Bool}
    {bucket : S3BucketContent}
    (read : readBucket config.poco config.bucketUri ctx.listing = some (complete, bucket))
    {r : String} {entry : S3BucketEntry} (found : (validatedMap config ctx bucket)[r]? = some entry)
    (valid : entry.valid = true) :
    ∃ part, Accepted config ctx r part ∧ entry.compatible = part.fields.compatible ∧
      entry.image = part.fields.image ∧ entry.imagePart =
        ((lastImage r ctx.listing.reached).map (ListedObject.imagePart config.bucketUri)).getD {} := by
  have combined := combines_readBucket read r
  rw [validatedMap, getElem?_computeManifest] at found
  obtain ⟨listed, inBucket, rfl⟩ := Option.map_eq_some_iff.mp found
  rw [inBucket] at combined
  obtain ⟨fresh, _, manifest, image⟩ := combined
  obtain ⟨parsedContent, fields, parsed, has, converted, young, named⟩ :=
    acceptable_of_valid fresh valid
  have content := congrArg ManifestPart.content manifest
  simp only [S3BucketEntry.manifestPart] at content
  -- The entry is valid, so its text has been read from some manifest.
  cases last : lastManifest config.poco r ctx.listing.reached with
  | none =>
    -- Without a manifest the text is empty, and it does not parse.
    rw [last, Option.getD_none] at content
    rw [content, noDocument] at parsed
    contradiction
  | some part =>
    rw [last, Option.getD_some] at content
    obtain ⟨o, _, described⟩ := exists_of_lastManifest last
    obtain ⟨_, _, _, parsedContent', parsed', _, converted'⟩ := manifestOf_eq_some.mp described
    -- The text is parsed a second time, to the same fields.
    rw [content, parsed'] at parsed
    cases parsed
    rw [converted'] at converted
    cases converted
    rw [content.symm] at parsed'
    have computed := computeEntry_of_fields listed parsed' has converted' young named
    refine ⟨part, ⟨last, young, named⟩, ?_, ?_, ?_⟩
    · rw [computed]
    · rw [computed]
    · rw [imagePart_computeEntry, image]

/-- The last manifest of an accepted release makes its entry valid. -/
theorem valid_of_accepted {complete : Bool} {bucket : S3BucketContent}
    (read : readBucket config.poco config.bucketUri ctx.listing = some (complete, bucket))
    {r : String} {part : ManifestPart} (accepted : Accepted config ctx r part) :
    ∃ entry, (validatedMap config ctx bucket)[r]? = some entry ∧ entry.valid = true ∧
      entry.compatible = part.fields.compatible ∧ entry.imagePart =
        ((lastImage r ctx.listing.reached).map (ListedObject.imagePart config.bucketUri)).getD {} := by
  obtain ⟨last, young, named⟩ := accepted
  have combined := combines_readBucket read r
  rw [last] at combined
  -- A release with a manifest has an entry.
  cases inBucket : bucket[r]? with
  | none =>
    rw [inBucket] at combined
    exact absurd combined.1 (by simp)
  | some listed =>
    rw [inBucket] at combined
    obtain ⟨_, _, manifest, image⟩ := combined
    have content := congrArg ManifestPart.content manifest
    simp only [S3BucketEntry.manifestPart, Option.getD_some] at content
    obtain ⟨o, _, described⟩ := exists_of_lastManifest last
    obtain ⟨_, _, _, parsedContent, parsed, has, converted⟩ := manifestOf_eq_some.mp described
    rw [← content] at parsed
    have computed := computeEntry_of_fields listed parsed has converted young named
    refine ⟨_, by rw [validatedMap, getElem?_computeManifest, inBucket, Option.map_some], ?_, ?_, ?_⟩
    · rw [computed]
    · rw [computed]
    · rw [imagePart_computeEntry, image]

/-- The last manifest of an accepted release that is listed makes a valid entry that is no staging one. -/
theorem entry_of_listed {complete : Bool} {bucket : S3BucketContent}
    (read : readBucket config.poco config.bucketUri ctx.listing = some (complete, bucket))
    {r : String} {part : ManifestPart} (accepted : Accepted config ctx r part)
    (listed : Listed config ctx.listing.reached r) :
    ∃ entry, (validatedMap config ctx bucket)[r]? = some entry ∧ isStaging entry = false ∧
      entry.valid = true ∧ entry.compatible = part.fields.compatible ∧ entry.imagePart =
        ((lastImage r ctx.listing.reached).map (ListedObject.imagePart config.bucketUri)).getD {} := by
  obtain ⟨entry, found, valid, type, described⟩ := valid_of_accepted read accepted
  -- Listed releases are those that are left without the staging ones.
  have stays : (removeStaging (validatedMap config ctx bucket)).contains r = true :=
    (contains_validatedMap read r).mpr listed
  obtain ⟨entry', found', build⟩ := contains_removeStaging.mp stays
  cases found.symm.trans found'
  exact ⟨entry, found, build, valid, type, described⟩

/-- A file name is determined by the address built from it. -/
theorem objectURI_inj {bucketUri key name : String}
    (same : objectURI bucketUri key = "https://" ++ bucketUri ++ "/" ++ name) :
    getFileName key = name := by
  -- The scheme, the bucket and the slash are the same on both sides.
  have characters := congrArg String.toList same
  simp only [objectURI, String.toList_append, List.append_cancel_left_eq] at characters
  exact String.toList_inj.mp characters

/-- When every accepted release has its own image, every inserted row matches its objects. -/
theorem insertedMatch_of_imagesNamed (noDocument : config.poco.parseObject "" = none)
    (namedImages : ImagesNamed config ctx c) : InsertedMatch config ctx c := by
  intro done ran row present new
  -- A result means that the listing did not throw.
  have threw : ∃ complete bucket,
      readBucket config.poco config.bucketUri ctx.listing = some (complete, bucket) := by
    cases read : readBucket config.poco config.bucketUri ctx.listing with
    | none => simp [reconcile, read] at ran
    | some result => exact ⟨result.1, result.2, rfl⟩
  obtain ⟨complete, bucket, read⟩ := threw
  obtain ⟨item, found, build, valid, absent, alike⟩ := reconcile_new_row read ran present new
  obtain ⟨part, accepted, type, name, described⟩ := fields_of_valid noDocument read found valid
  have listed : Listed config ctx.listing.reached item.1 :=
    (contains_validatedMap read item.1).mp (contains_removeStaging.mpr ⟨item.2, found, build⟩)
  obtain ⟨o, last, fileName⟩ := namedImages item.1 part accepted listed fun stored =>
    absent stored.1 (type ▸ stored.2.1) (type ▸ stored.2.2)
  obtain ⟨read_, isImage⟩ := mem_of_lastImage last
  simp only [isImageOf, Bool.and_eq_true, decide_eq_true_eq] at isImage
  rw [last, Option.map_some, Option.getD_some] at described
  -- The row repeats the entry, and the entry repeats the objects.
  have release := congrArg Firmware.release alike
  have rowImage := (congrArg Firmware.image alike).symm.trans name
  have rowUri := (congrArg Firmware.uri alike).symm.trans (congrArg ImagePart.uri described)
  have rowSize := (congrArg Firmware.size alike).symm.trans (congrArg ImagePart.size described)
  have rowDate := (congrArg Firmware.imageDate alike).symm.trans
    (congrArg ImagePart.timeStamp described)
  simp only [recordOf, Firmware.unflagged, FirmwaresDB.stored, firmwareOf] at release
  obtain ⟨last', _, named⟩ := accepted
  obtain ⟨json, inReached, manifest⟩ := exists_of_lastManifest last'
  obtain ⟨extension, baseName, _⟩ := manifestOf_eq_some.mp manifest
  have imageName : row.image = item.1 ++ "-upgrade.bin" := rowImage.trans named
  refine ⟨by rw [imageName, release], ?_, ?_, ?_⟩
  · rw [imageName, ← fileName]
    exact rowUri
  · exact ⟨json, Listing.reached_subset inReached, extension, baseName.trans release⟩
  · exact ⟨o, Listing.reached_subset read_, isImage.1, fileName.trans imageName.symm, rowSize,
      rowDate⟩

/-- A valid entry with a plain name that no row has yet is inserted when the statements succeed. -/
theorem reconcile_inserts {complete : Bool} {bucket : S3BucketContent}
    (read : readBucket config.poco config.bucketUri ctx.listing = some (complete, bucket))
    (selected : ctx.manifest.selected = true)
    (succeeds : ∀ releases, ctx.manifest.Succeeds releases c.firmwares.rows) {r : String}
    {entry : S3BucketEntry} (found : (validatedMap config ctx bucket)[r]? = some entry)
    (build : isStaging entry = false) (valid : entry.valid = true)
    (plainRelease : Sql.Plain config.type.dialect r)
    (plainType : Sql.Plain config.type.dialect entry.compatible)
    (absent : (r, entry.compatible) ∉ names c.firmwares.rows) :
    ∃ done row, reconcile config ctx c = some done ∧ row ∈ done.firmwares.rows ∧
      row.unflagged = recordOf ctx.manifest (r, entry) := by
  obtain ⟨pruned, remaining, ran⟩ := addManifestToDB_eq config.type c
    (validatedMap config ctx bucket) selected
  -- What the loop relies on holds of the pruned table, whose rows were stored before.
  have within : ∀ row ∈ pruned.firmwares.rows, row ∈ c.firmwares.rows := by
    intro row member
    rw [remaining] at member
    exact (List.mem_filter.mp member).1
  have free : (r, entry.compatible) ∉ names pruned.firmwares.rows := by
    intro taken
    obtain ⟨row, present, named⟩ := List.mem_map.mp taken
    exact absent (List.mem_map.mpr ⟨row, within row present, named⟩)
  have listed : (r, entry) ∈ (removeStaging (validatedMap config ctx bucket)).toList := by
    rw [Std.ExtTreeMap.mem_toList_iff_getElem?_eq_some, getElem?_removeStaging]
    exact ⟨found, build⟩
  have statements := succeeds ((removeStaging (validatedMap config ctx bucket)).toList.map Prod.fst)
  have inserted := foldl_insertEntry_of_needed config.type listed
    (nodup_releases _) ⟨statements.executed, fun release member row present =>
      statements.fresh release member row (within row present), statements.distinct⟩
    valid plainRelease plainType free
  obtain ⟨row, present, alike⟩ := List.mem_map.mp inserted
  have started : reconcile config ctx c =
      addManifestToDB config.type ctx.manifest (validatedMap config ctx bucket) c := by
    rw [reconcile, read]
    rfl
  exact ⟨_, row, started.trans ran, present, alike⟩

/-- When every inserted row matches its objects, every accepted release has its own image. -/
theorem imagesNamed_of_insertedMatch {complete : Bool} {bucket : S3BucketContent}
    (read : readBucket config.poco config.bucketUri ctx.listing = some (complete, bucket))
    (selected : ctx.manifest.selected = true)
    (succeeds : ∀ releases, ctx.manifest.Succeeds releases c.firmwares.rows)
    (plain : ∀ r part, lastManifest config.poco r ctx.listing.reached = some part →
      Sql.Plain config.type.dialect r ∧ Sql.Plain config.type.dialect part.fields.compatible)
    (insertedMatch : InsertedMatch config ctx c) : ImagesNamed config ctx c := by
  intro r part accepted listed notStored
  obtain ⟨entry, found, build, valid, type, described⟩ := entry_of_listed read accepted listed
  obtain ⟨plainRelease, plainType⟩ := plain r part accepted.1
  rw [← type] at plainType notStored
  have absent : (r, entry.compatible) ∉ names c.firmwares.rows :=
    fun taken => notStored ⟨plainRelease, plainType, taken⟩
  obtain ⟨done, row, ran, present, alike⟩ := reconcile_inserts read selected succeeds found build
    valid plainRelease plainType absent
  have new : ∀ before ∈ c.firmwares.rows, before.id ≠ row.id := by
    intro before inTable same
    have ids := congrArg Firmware.id alike
    exact (succeeds [r]).fresh r (List.mem_singleton.mpr rfl) before inTable (same.trans ids)
  have rowMatches := insertedMatch done ran row present new
  -- The address in the row is the one its image left in the entry.
  have release : row.release = r := congrArg Firmware.release alike
  have uri : row.uri = entry.uri := congrArg Firmware.uri alike
  have written := congrArg ImagePart.uri described
  have stated := rowMatches.uri
  rw [uri, rowMatches.image, release] at stated
  -- Without an image the address would be empty, and no address is.
  cases last : lastImage r ctx.listing.reached with
  | none =>
    rw [last] at written
    have empty : entry.uri = "" := written
    rw [empty] at stated
    have lengths := congrArg String.length stated
    simp only [String.length_append] at lengths
    have scheme : "https://".length = 8 := by decide
    have nothing : "".length = 0 := by decide
    omega
  | some o =>
    rw [last] at written
    have address : entry.uri = objectURI config.bucketUri o.key := written
    exact ⟨o, rfl, objectURI_inj (address.symm.trans stated)⟩

/--
The inserted rows match the objects of the listing when every release that would be inserted has its
own image, and only then when all strings are plain and the statements succeed.
-/
theorem insertedMatch_iff_imagesNamed (config : ManifestConfig) (ctx : RefreshContext)
    (c : Catalogue) (noDocument : config.poco.parseObject "" = none) :
    (ImagesNamed config ctx c → InsertedMatch config ctx c) ∧
      ((readBucket config.poco config.bucketUri ctx.listing).isSome = true →
        ctx.manifest.selected = true →
        (∀ releases, ctx.manifest.Succeeds releases c.firmwares.rows) →
        (∀ r part, lastManifest config.poco r ctx.listing.reached = some part →
          Sql.Plain config.type.dialect r ∧
            Sql.Plain config.type.dialect part.fields.compatible) →
        (InsertedMatch config ctx c ↔ ImagesNamed config ctx c)) := by
  -- A listing that does not throw is what both directions start from.
  refine ⟨insertedMatch_of_imagesNamed noDocument, fun reads selected succeeds plain => ?_⟩
  obtain ⟨⟨complete, bucket⟩, read⟩ := Option.isSome_iff_exists.mp reads
  exact ⟨imagesNamed_of_insertedMatch read selected succeeds plain,
    insertedMatch_of_imagesNamed noDocument⟩

/-- The `.json` object of the release `r1`. -/
def manifestObject : ListedObject where
  key := "r1.json"
  content := some manifestText

/-- The `.bin` object of the release `r1`. -/
def imageObject : ListedObject where
  key := "r1-upgrade.bin"
  lastModifiedMillis := 200000
  size := 4096

/-- The fields of that manifest. -/
def manifestPart : ManifestPart :=
  ⟨manifestText, ⟨200, "eap101", "v1", "r1-upgrade.bin"⟩⟩

/-- A listing of both objects. -/
def bothObjects : Listing := .last [manifestObject, imageObject]

/-- The only manifest that listing has is the one of `r1`. -/
theorem lastManifest_bothObjects {r : String} {part : ManifestPart}
    (last : lastManifest manifestPoco r bothObjects.reached = some part) :
    r = "r1" ∧ part = manifestPart := by
  obtain ⟨o, read, described⟩ := exists_of_lastManifest last
  have both : bothObjects.reached = [manifestObject, imageObject] := by decide
  rw [both] at read
  -- The image is no manifest.
  rcases List.mem_cons.mp read with rfl | inRest
  · have base : getBaseName manifestObject.key = "r1" := by decide
    have named : r = "r1" := (manifestOf_eq_some.mp described).2.1.symm.trans base
    subst named
    have value : manifestOf manifestPoco "r1" manifestObject = some manifestPart := by
      decide +kernel
    exact ⟨rfl, Option.some.inj (described.symm.trans value)⟩
  · rw [List.mem_singleton.mp inRest] at described
    have extension := (manifestOf_eq_some.mp described).1
    exact absurd extension (by decide)

/-- Ids made from releases are always new to an empty table. -/
theorem insertsAll_succeeds (releases : List String) : insertsAll.Succeeds releases [] := by
  -- The release can be read off the id.
  refine ⟨fun _ _ => rfl, fun _ _ _ stored => absurd stored List.not_mem_nil, ?_⟩
  intro left _ right _ same
  have characters := congrArg String.toList same
  simp only [insertsAll, String.toList_append, List.append_cancel_left_eq] at characters
  exact String.toList_inj.mp characters

/-- A release with both objects is inserted as they describe it. -/
theorem insertedMatch_bothObjects :
    InsertedMatch oneManifest { refreshOver bothObjects with computeTime := 200 } {} := by
  have plain : ∀ r part, lastManifest manifestPoco r bothObjects.reached = some part →
      Sql.Plain DBType.sqlite.dialect r ∧ Sql.Plain DBType.sqlite.dialect part.fields.compatible := by
    intro r part last
    rw [(lastManifest_bothObjects last).1, (lastManifest_bothObjects last).2]
    decide
  -- The only accepted release has its image in the listing.
  refine ((insertedMatch_iff_imagesNamed oneManifest
    { refreshOver bothObjects with computeTime := 200 } {} rfl).2 (by decide +kernel) rfl
    insertsAll_succeeds plain).mpr ?_
  intro r part accepted _ _
  rw [(lastManifest_bothObjects accepted.1).1]
  exact ⟨imageObject, by decide +kernel, by decide +kernel⟩

/-- A release without a `.bin` object is inserted all the same. -/
theorem inserted_without_image :
    ¬ InsertedMatch oneManifest
      { refreshOver (.last [manifestObject]) with computeTime := 200 } {} := by
  intro insertedMatch
  have rows : (reconcile oneManifest { refreshOver (.last [manifestObject]) with computeTime := 200 }
      {}).map (fun done => done.firmwares.rows) = some [{
        id := "new-r1", release := "r1", deviceType := "eap101", revision := "v1",
        image := "r1-upgrade.bin", latest := true }] := by decide +kernel
  obtain ⟨done, ran, stored⟩ := Option.map_eq_some_iff.mp rows
  have rowMatches := insertedMatch done ran _ (by rw [stored]; exact List.mem_singleton.mpr rfl)
    fun _ present => absurd present List.not_mem_nil
  -- The only listed object is no image.
  obtain ⟨o, listed, extension, _⟩ := rowMatches.source
  rw [List.mem_singleton.mp listed] at extension
  exact absurd extension (by decide)

end Fms
