import Fms.Manifest.Bucket
import Mathlib.Data.List.Induction
import Mathlib.Data.List.TakeWhile

/-! The entry of each release is decided by the last objects that describe it. -/

namespace Fms

/-- The objects of all pages, in order. -/
def Listing.objects : Listing → List ListedObject
  | .failed => []
  | .last objects => objects
  | .more objects rest => objects ++ rest.objects

/-- The objects read before the listing fails or the service stops running. -/
def Listing.reached : Listing → List ListedObject
  | .failed => []
  | .last objects => objects.takeWhile ListedObject.running
  | .more objects rest =>
    if objects.all ListedObject.running then objects ++ rest.reached
    else objects.takeWhile ListedObject.running

/-- The listing does not fail, and the service keeps running through it. -/
def Listing.complete : Listing → Bool
  | .failed => false
  | .last objects => objects.all ListedObject.running
  | .more objects rest => objects.all ListedObject.running && rest.complete

/-- Only listed objects are read. -/
theorem Listing.reached_subset {listing : Listing} {o : ListedObject}
    (read : o ∈ listing.reached) : o ∈ listing.objects := by
  -- Each page contributes its objects, or those up to the first stop.
  induction listing with
  | failed => exact read
  | last objects => exact (List.takeWhile_sublist _).subset read
  | more objects rest ih =>
    simp only [reached] at read
    simp only [Listing.objects, List.mem_append]
    split at read
    · rcases List.mem_append.mp read with here | later
      · exact Or.inl here
      · exact Or.inr (ih later)
    · exact Or.inl ((List.takeWhile_sublist _).subset read)

variable {poco : Poco} {bucketUri : String}

/-- A page is read object by object up to the first one that finds the service stopped. -/
theorem readObjects_eq (bucket : S3BucketContent) (objects : List ListedObject) :
    readObjects poco bucketUri bucket objects =
      ((objects.takeWhile ListedObject.running).foldlM (readObject poco bucketUri) bucket).map
        fun bucket => (objects.all ListedObject.running, bucket) := by
  induction objects generalizing bucket with
  | nil => rfl
  | cons o rest ih =>
    -- The check comes before the object is read.
    by_cases running : o.running = true
    · simp only [readObjects, running, Bool.not_true, Bool.false_eq_true, if_false,
        List.takeWhile_cons_of_pos, List.foldlM_cons, List.all_cons, Bool.true_and]
      cases readObject poco bucketUri bucket o with
      | none => rfl
      | some read => exact ih read
    · simp [readObjects, running]

/-- The pages together are read as one sequence of objects. -/
theorem readPages_eq (bucket : S3BucketContent) (listing : Listing) :
    readPages poco bucketUri bucket listing =
      (listing.reached.foldlM (readObject poco bucketUri) bucket).map
        fun bucket => (listing.complete, bucket) := by
  induction listing generalizing bucket with
  | failed => rfl
  | last objects => exact readObjects_eq bucket objects
  | more objects rest ih =>
    rw [readPages, readObjects_eq]
    by_cases all : objects.all ListedObject.running = true
    · have whole : objects.takeWhile ListedObject.running = objects :=
        List.takeWhile_eq_self_iff.mpr (List.all_eq_true.mp all)
      have reached : (Listing.more objects rest).reached = objects ++ rest.reached := if_pos all
      rw [whole, reached, List.foldlM_append, all]
      -- The rest of the pages is read from the map this page leaves.
      cases objects.foldlM (readObject poco bucketUri) bucket with
      | none => rfl
      | some read => simpa [Listing.complete, all] using ih read
    · have stopped : objects.all ListedObject.running = false := Bool.eq_false_iff.mpr all
      have reached : (Listing.more objects rest).reached =
          objects.takeWhile ListedObject.running := if_neg all
      rw [reached, stopped]
      cases (objects.takeWhile ListedObject.running).foldlM (readObject poco bucketUri) bucket with
      | none => rfl
      | some read => simp [Listing.complete, stopped]

/-- `ReadBucket` leaves what its objects before a failure add to the empty map. -/
theorem readBucket_eq_some {listing : Listing} {complete : Bool} {bucket : S3BucketContent} :
    readBucket poco bucketUri listing = some (complete, bucket) ↔
      listing.reached.foldlM (readObject poco bucketUri) ∅ = some bucket ∧
        complete = listing.complete := by
  rw [readBucket, readPages_eq, Option.map_eq_some_iff]
  simp only [Prod.mk.injEq, eq_comm]
  -- Both sides speak of the same fold over the objects.
  constructor
  · intro found
    obtain ⟨read, folded, done, rfl⟩ := found
    exact ⟨folded, done⟩
  · intro found
    exact ⟨bucket, found.1, found.2, rfl⟩

/-- What a `.json` object says of its release. -/
structure ManifestPart where
  content : String := ""
  fields : ManifestFields := {}
  deriving DecidableEq, Repr

/-- What a `.bin` object says of its release. -/
structure ImagePart where
  timeStamp : UInt64 := 0
  size : UInt64 := 0
  uri : String := ""
  deriving DecidableEq, Repr

/-- The part of an entry that comes from a `.json` object. -/
def S3BucketEntry.manifestPart (entry : S3BucketEntry) : ManifestPart :=
  ⟨entry.s3ContentManifest, ⟨entry.timestamp, entry.compatible, entry.revision, entry.image⟩⟩

/-- The part of an entry that comes from a `.bin` object. -/
def S3BucketEntry.imagePart (entry : S3BucketEntry) : ImagePart :=
  ⟨entry.s3TimeStamp, entry.s3Size, entry.uri⟩

/-- The manifest a `.json` object describes a release with, when it can be read and is complete. -/
def manifestOf (poco : Poco) (release : String) (o : ListedObject) : Option ManifestPart :=
  if getExtension o.key = "json" ∧ getBaseName o.key = release then do
    let content ← o.content
    let parsedContent ← poco.parseObject content
    if hasFields parsedContent then
      let fields ← readFields poco parsedContent
      return ⟨content, fields⟩
    else none
  else none

/-- What a `.bin` object says. -/
def ListedObject.imagePart (bucketUri : String) (o : ListedObject) : ImagePart :=
  ⟨lastModifiedSeconds o, objectSize o, objectURI bucketUri o.key⟩

/-- Whether an object is a `.bin` object of a release. -/
def isImageOf (release : String) (o : ListedObject) : Bool :=
  getExtension o.key = "bin" && releaseName o.key = release

/-- The last manifest of a release among some objects. -/
def lastManifest (poco : Poco) (release : String) (objects : List ListedObject) :
    Option ManifestPart :=
  (objects.filterMap (manifestOf poco release)).getLast?

/-- The last `.bin` object of a release among some objects. -/
def lastImage (release : String) (objects : List ListedObject) : Option ListedObject :=
  (objects.filter (isImageOf release)).getLast?

/-- An entry combines the given parts, and it exists when one of them does. -/
def Combines (bucketUri : String) (manifest : Option ManifestPart) (image : Option ListedObject) :
    Option S3BucketEntry → Prop
  | none => manifest = none ∧ image = none
  | some entry =>
    entry.valid = false ∧ (manifest.isSome = true ∨ image.isSome = true) ∧
      entry.manifestPart = manifest.getD {} ∧
      entry.imagePart = (image.map (ListedObject.imagePart bucketUri)).getD {}

/-- The last manifest of a release, with one more object. -/
theorem lastManifest_append (poco : Poco) (release : String) (before : List ListedObject)
    (o : ListedObject) :
    lastManifest poco release (before ++ [o]) =
      (manifestOf poco release o).or (lastManifest poco release before) := by
  -- The last element of a list is the one put behind it.
  rw [lastManifest, lastManifest, List.filterMap_append]
  cases found : manifestOf poco release o with
  | none => simp [found]
  | some part => simp [found]

/-- The last image of a release, with one more object. -/
theorem lastImage_append (release : String) (before : List ListedObject) (o : ListedObject) :
    lastImage release (before ++ [o]) =
      if isImageOf release o then some o else lastImage release before := by
  -- The same, with a filter in place of the partial function.
  rw [lastImage, lastImage, List.filter_append]
  cases found : isImageOf release o with
  | false => simp [found]
  | true => simp [found]

/-- Reading a manifest writes its part into the entry of its release, and into no other. -/
theorem combines_readManifest {bucket read : S3BucketContent} {release content : String}
    {parsedContent : JsonObject} {fields : ManifestFields}
    (parsed : poco.parseObject content = some parsedContent) (has : hasFields parsedContent = true)
    (converted : readFields poco parsedContent = some fields)
    (done : readManifest poco bucket release content = some read) (r : String)
    {manifest : Option ManifestPart} {image : Option ListedObject}
    (combined : Combines bucketUri manifest image bucket[r]?) :
    Combines bucketUri (if release = r then some ⟨content, fields⟩ else manifest) image
      read[r]? := by
  simp only [readManifest, parsed, has, converted, if_true, Option.bind_eq_bind, Option.bind_some,
    Option.pure_def] at done
  -- The entry is created with the part, or the part is written into it.
  cases found : bucket[release]? with
  | none =>
    simp only [found, Option.some.injEq] at done
    subst done
    by_cases same : release = r
    · subst same
      rw [found] at combined
      simp [Combines, S3BucketEntry.manifestPart, S3BucketEntry.imagePart, combined.2]
    · simpa [Std.ExtTreeMap.getElem?_insert, same] using combined
  | some entry =>
    simp only [found, Option.some.injEq] at done
    subst done
    by_cases same : release = r
    · subst same
      rw [found] at combined
      obtain ⟨fresh, _, _, kept⟩ := combined
      simp only [S3BucketEntry.imagePart] at kept
      simp [Combines, S3BucketEntry.manifestPart, S3BucketEntry.imagePart, fresh, kept]
    · simpa [Std.ExtTreeMap.getElem?_insert, same] using combined

/-- Reading an image writes its part into the entry of its release, and into no other. -/
theorem combines_readImage (bucket : S3BucketContent) (o : ListedObject) (r : String)
    {manifest : Option ManifestPart} {image : Option ListedObject}
    (combined : Combines bucketUri manifest image bucket[r]?) :
    Combines bucketUri manifest (if releaseName o.key = r then some o else image)
      (readImage bucketUri bucket o)[r]? := by
  unfold readImage
  -- Only the entry of the object's own release is written.
  by_cases same : releaseName o.key = r
  · subst same
    cases found : bucket[releaseName o.key]? with
    | none =>
      rw [found] at combined
      simp [Combines, S3BucketEntry.manifestPart, S3BucketEntry.imagePart, combined.1,
        ListedObject.imagePart]
    | some entry =>
      rw [found] at combined
      obtain ⟨fresh, _, kept, _⟩ := combined
      simp only [S3BucketEntry.manifestPart] at kept
      simp [Combines, S3BucketEntry.manifestPart, S3BucketEntry.imagePart, fresh, kept,
        ListedObject.imagePart]
  · rw [if_neg same]
    cases found : bucket[releaseName o.key]? with
    | none => simpa [Std.ExtTreeMap.getElem?_insert, same] using combined
    | some entry => simpa [Std.ExtTreeMap.getElem?_insert, same] using combined

/-- Reading an object adds the part it describes a release with. -/
theorem combines_readObject {bucket read : S3BucketContent} {o : ListedObject}
    (done : readObject poco bucketUri bucket o = some read) (r : String)
    {manifest : Option ManifestPart} {image : Option ListedObject}
    (combined : Combines bucketUri manifest image bucket[r]?) :
    Combines bucketUri ((manifestOf poco r o).or manifest)
      (if isImageOf r o then some o else image) read[r]? := by
  unfold readObject at done
  split at done
  · -- A `.json` object is no image.
    rename_i json
    have noImage : isImageOf r o = false := by simp [isImageOf, json]
    rw [noImage]
    simp only [Bool.false_eq_true, if_false]
    cases content : o.content with
    | none =>
      simp only [content, Option.some.injEq] at done
      subst done
      simpa [manifestOf, json, content] using combined
    | some text =>
      simp only [content] at done
      cases parsed : poco.parseObject text with
      | none => simp [readManifest, parsed] at done
      | some parsedContent =>
        -- A manifest has to be complete before its fields are read.
        by_cases has : hasFields parsedContent = true
        · cases converted : readFields poco parsedContent with
          | none => simp [readManifest, parsed, has, converted] at done
          | some fields =>
            have written := combines_readManifest parsed has converted done r combined
            by_cases same : getBaseName o.key = r
            · simpa [manifestOf, json, content, parsed, has, converted, same] using written
            · simpa [manifestOf, same] using written
        · -- An incomplete manifest is skipped.
          simp only [readManifest, parsed, has, Option.bind_eq_bind, Option.bind_some, if_false,
            Option.pure_def, Option.some.injEq, Bool.false_eq_true] at done
          subst done
          have skipped : manifestOf poco r o = none := by
            simp [manifestOf, content, parsed, has]
          rwa [skipped, Option.none_or]
  · rename_i notJson
    have noManifest : manifestOf poco r o = none := by simp [manifestOf, notJson]
    rw [noManifest, Option.none_or]
    split at done
    · rename_i bin
      cases done
      have written := combines_readImage bucket o r combined
      simpa [isImageOf, bin] using written
    · rename_i notBin
      cases done
      simpa [isImageOf, notBin] using combined

/-- The entry of a release combines the last manifest and the last image among the objects read. -/
theorem combines_foldlM {objects : List ListedObject} {bucket : S3BucketContent}
    (read : objects.foldlM (readObject poco bucketUri) ∅ = some bucket) (r : String) :
    Combines bucketUri (lastManifest poco r objects) (lastImage r objects) bucket[r]? := by
  -- The last object decides over the parts that the objects before it have left.
  induction objects using List.reverseRecOn generalizing bucket with
  | nil =>
    cases read
    exact ⟨rfl, rfl⟩
  | append_singleton before o ih =>
    rw [List.foldlM_append] at read
    cases earlier : before.foldlM (readObject poco bucketUri) ∅ with
    | none => simp [earlier] at read
    | some left =>
      have done : readObject poco bucketUri left o = some bucket := by simpa [earlier] using read
      rw [lastManifest_append, lastImage_append]
      exact combines_readObject done r (ih earlier)

/-- The entry `ReadBucket` leaves for a release combines the last objects it has read of it. -/
theorem combines_readBucket {listing : Listing} {complete : Bool} {bucket : S3BucketContent}
    (read : readBucket poco bucketUri listing = some (complete, bucket)) (r : String) :
    Combines bucketUri (lastManifest poco r listing.reached) (lastImage r listing.reached)
      bucket[r]? :=
  combines_foldlM (readBucket_eq_some.mp read).1 r

/-- The last manifest of a release is the manifest of one of the objects. -/
theorem exists_of_lastManifest {release : String} {objects : List ListedObject}
    {part : ManifestPart} (last : lastManifest poco release objects = some part) :
    ∃ o ∈ objects, manifestOf poco release o = some part :=
  List.mem_filterMap.mp (List.mem_of_getLast? last)

/-- The last image of a release is one of the objects. -/
theorem mem_of_lastImage {release : String} {objects : List ListedObject} {o : ListedObject}
    (last : lastImage release objects = some o) : o ∈ objects ∧ isImageOf release o = true :=
  List.mem_filter.mp (List.mem_of_getLast? last)

/-- A manifest comes from a `.json` object of its release, whose content can be read. -/
theorem manifestOf_eq_some {release : String} {o : ListedObject} {part : ManifestPart} :
    manifestOf poco release o = some part ↔
      getExtension o.key = "json" ∧ getBaseName o.key = release ∧
        o.content = some part.content ∧ ∃ parsedContent,
          poco.parseObject part.content = some parsedContent ∧ hasFields parsedContent = true ∧
            readFields poco parsedContent = some part.fields := by
  unfold manifestOf
  constructor
  -- Every test of the code passed on the way to a part.
  · intro found
    split at found
    · rename_i named
      simp only [Option.bind_eq_bind, Option.bind_eq_some_iff] at found
      obtain ⟨content, downloaded, parsedContent, parsed, rest⟩ := found
      split at rest
      · rename_i has
        obtain ⟨fields, converted, made⟩ := Option.bind_eq_some_iff.mp rest
        cases made
        exact ⟨named.1, named.2, downloaded, parsedContent, parsed, has, converted⟩
      · contradiction
    · contradiction
  -- The other way every test passes in turn.
  · intro described
    obtain ⟨json, named, downloaded, parsedContent, parsed, has, converted⟩ := described
    simp [json, named, downloaded, parsed, has, converted]

end Fms
