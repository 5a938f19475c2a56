import Mathlib.Data.List.Perm.Basic
import Fms.Manifest.Provenance

/-! The order in which the bucket lists its objects, and the pages it cuts them into. -/

namespace Fms

/-- Whether an object is a `.json` object of a release. -/
def isManifestOf (release : String) (o : ListedObject) : Bool :=
  getExtension o.key = "json" && getBaseName o.key = release

/-- Each release has at most one `.json` object and at most one `.bin` object. -/
def OncePerRelease (objects : List ListedObject) : Prop :=
  ∀ release, (objects.filter (isManifestOf release)).length ≤ 1 ∧
    (objects.filter (isImageOf release)).length ≤ 1

/-- An entry without `S3Name`, which is written only where the image completes an entry. -/
def S3BucketEntry.listed (entry : S3BucketEntry) : S3BucketEntry :=
  { entry with s3Name := "" }

variable {poco : Poco} {bucketUri : String}

/-- A listing that is read to its end is read object by object. -/
theorem Listing.reached_of_complete {listing : Listing} (complete : listing.complete = true) :
    listing.reached = listing.objects := by
  -- No page fails, and no object of a page finds the service stopped.
  induction listing with
  | failed => contradiction
  | last objects => exact List.takeWhile_eq_self_iff.mpr (List.all_eq_true.mp complete)
  | more objects rest ih =>
    simp only [Listing.complete, Bool.and_eq_true] at complete
    rw [Listing.reached, if_pos complete.1, ih complete.2, Listing.objects]

/-- A list of at most one element has no other order. -/
theorem eq_of_perm_of_length_le_one {α : Type} {left right : List α} (perm : left.Perm right)
    (one : left.length ≤ 1) : left = right := by
  match left, one with
  | [], _ => exact (List.nil_perm.mp perm).symm
  | [only], _ => exact (List.singleton_perm.mp perm)

/-- Only a `.json` object of a release can be its manifest. -/
theorem filterMap_manifestOf (release : String) (objects : List ListedObject) :
    objects.filterMap (manifestOf poco release) =
      (objects.filter (isManifestOf release)).filterMap (manifestOf poco release) := by
  -- An object of another name or extension contributes no manifest either way.
  rw [List.filterMap_filter]
  refine List.filterMap_congr fun o _ => ?_
  by_cases named : getExtension o.key = "json" ∧ getBaseName o.key = release
  · simp [isManifestOf, named]
  · simp [isManifestOf, manifestOf, named]

/-- Where a release has one manifest at most, the order of the objects does not matter for it. -/
theorem lastManifest_perm {left right : List ListedObject} (perm : left.Perm right)
    (once : OncePerRelease left) (release : String) :
    lastManifest poco release left = lastManifest poco release right := by
  -- The `.json` objects of the release are the same list in both orders.
  rw [lastManifest, lastManifest, filterMap_manifestOf, filterMap_manifestOf release right,
    eq_of_perm_of_length_le_one (perm.filter _) (once release).1]

/-- Where a release has one image at most, the order of the objects does not matter for it. -/
theorem lastImage_perm {left right : List ListedObject} (perm : left.Perm right)
    (once : OncePerRelease left) (release : String) :
    lastImage release left = lastImage release right := by
  -- So are its images.
  rw [lastImage, lastImage, eq_of_perm_of_length_le_one (perm.filter _) (once release).2]

/-- Two entries that combine the same parts differ at most in their names. -/
theorem Combines.unique {manifest : Option ManifestPart} {image : Option ListedObject}
    {left right : Option S3BucketEntry} (combinesLeft : Combines bucketUri manifest image left)
    (combinesRight : Combines bucketUri manifest image right) :
    left.map S3BucketEntry.listed = right.map S3BucketEntry.listed := by
  -- An entry is there on both sides or on neither.
  cases left with
  | none =>
    obtain ⟨rfl, rfl⟩ := combinesLeft
    cases right with
    | none => rfl
    | some entry =>
      -- An entry exists only where there is something to combine.
      obtain ⟨_, present, _⟩ := combinesRight
      simp at present
  | some entry =>
    cases right with
    | none =>
      obtain ⟨rfl, rfl⟩ := combinesRight
      obtain ⟨_, present, _⟩ := combinesLeft
      simp at present
    | some other =>
      obtain ⟨validLeft, _, manifestLeft, imageLeft⟩ := combinesLeft
      obtain ⟨validRight, _, manifestRight, imageRight⟩ := combinesRight
      have manifests := manifestLeft.trans manifestRight.symm
      have images := imageLeft.trans imageRight.symm
      simp only [S3BucketEntry.manifestPart, S3BucketEntry.imagePart, ManifestPart.mk.injEq,
        ManifestFields.mk.injEq, ImagePart.mk.injEq] at manifests images
      -- Nine of the ten fields are in one of the parts, or never set.
      simp [S3BucketEntry.listed, validLeft, validRight, manifests, images]

/--
Reading the bucket does not depend on the order of the listing, nor on its pages.

Two listings of the same objects lead to the same releases, and to entries that agree in all but
their names.
-/
theorem readBucket_perm {left right : Listing} (perm : left.objects.Perm right.objects)
    (once : OncePerRelease left.objects) {bucketLeft bucketRight : S3BucketContent}
    (readLeft : readBucket poco bucketUri left = some (true, bucketLeft))
    (readRight : readBucket poco bucketUri right = some (true, bucketRight)) (release : String) :
    (bucketLeft[release]?).map S3BucketEntry.listed =
      (bucketRight[release]?).map S3BucketEntry.listed := by
  -- Both listings are read to their end, and each entry combines the last objects of its release.
  have reachedLeft := Listing.reached_of_complete (readBucket_eq_some.mp readLeft).2.symm
  have reachedRight := Listing.reached_of_complete (readBucket_eq_some.mp readRight).2.symm
  have combinesLeft := combines_readBucket readLeft release
  have combinesRight := combines_readBucket readRight release
  rw [reachedLeft, lastManifest_perm perm once, lastImage_perm perm once] at combinesLeft
  rw [reachedRight] at combinesRight
  exact combinesLeft.unique combinesRight

/-- The same two objects on two pages, with the image in front. -/
def bothReversed : Listing := .more [imageObject] (.last [manifestObject])

/-- The name of an entry tells which of its objects was listed first. -/
example : ((readBucket manifestPoco "fw" bothObjects).map fun read =>
    (read.2["r1"]?).map S3BucketEntry.s3Name) = some (some "r1") := by decide +kernel

/-- One page with the manifest in front and two pages with the image in front are read alike. -/
theorem readBucket_perm_r1 :
    ∃ bucketLeft bucketRight : S3BucketContent,
      readBucket manifestPoco "fw" bothObjects = some (true, bucketLeft) ∧
      readBucket manifestPoco "fw" bothReversed = some (true, bucketRight) ∧
      (bucketLeft["r1"]?).map S3BucketEntry.listed = (bucketRight["r1"]?).map S3BucketEntry.listed := by
  have perm : bothObjects.objects.Perm bothReversed.objects :=
    List.Perm.swap imageObject manifestObject []
  have once : OncePerRelease bothObjects.objects := by
    intro release
    -- One of the two objects is a `.json` object, and the other one a `.bin` object.
    have noManifest : isManifestOf release imageObject = false := by
      have extension : getExtension imageObject.key ≠ "json" := by decide +kernel
      simp [isManifestOf, extension]
    have noImage : isImageOf release manifestObject = false := by
      have extension : getExtension manifestObject.key ≠ "bin" := by decide +kernel
      simp [isImageOf, extension]
    show (([manifestObject, imageObject] : List ListedObject).filter _).length ≤ 1 ∧
      (([manifestObject, imageObject] : List ListedObject).filter _).length ≤ 1
    constructor
    · rw [List.filter_cons, List.filter_cons, noManifest]
      split <;> simp
    · rw [List.filter_cons, noImage]
      exact List.length_filter_le _ _
  have isSomeLeft : (readBucket manifestPoco "fw" bothObjects).isSome = true := by
    decide +kernel
  have isSomeRight : (readBucket manifestPoco "fw" bothReversed).isSome = true := by
    decide +kernel
  -- Both readings end without an exception and to the end of the listing.
  obtain ⟨⟨doneLeft, bucketLeft⟩, left⟩ := Option.isSome_iff_exists.mp isSomeLeft
  obtain ⟨⟨doneRight, bucketRight⟩, right⟩ := Option.isSome_iff_exists.mp isSomeRight
  obtain rfl : doneLeft = true := (readBucket_eq_some.mp left).2
  obtain rfl : doneRight = true := (readBucket_eq_some.mp right).2
  exact ⟨bucketLeft, bucketRight, left, right,
    readBucket_perm perm once left right "r1"⟩

end Fms
