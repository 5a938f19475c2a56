import Fms.Poco.Json
import Fms.Poco.Text

/-! `ManifestCreator::ReadBucket`: what the listing of the S3 bucket says of each release. -/

namespace Fms

/-- `S3BucketEntry`: a release, as its JSON object and its image object describe it. -/
structure S3BucketEntry where
  valid : Bool := false
  s3Name : String := ""
  s3ContentManifest : String := ""
  s3TimeStamp : UInt64 := 0
  s3Size : UInt64 := 0
  revision : String := ""
  image : String := ""
  compatible : String := ""
  timestamp : UInt64 := 0
  uri : String := ""
  deriving DecidableEq, Repr

/-- `S3BucketContent`: a `std::map` from releases to entries. -/
abbrev S3BucketContent := Std.ExtTreeMap String S3BucketEntry

/-- `Aws::S3::Model::Object`, and what the service meets when its turn comes. -/
structure ListedObject where
  key : String
  lastModifiedMillis : Int := 0
  size : Int := 0
  /-- `Running_` at that moment. -/
  running : Bool := true
  /-- The text `GetBucketObjectContent` returns for the file name, unless the download fails. -/
  content : Option String := none
  deriving DecidableEq, Repr

/-- The answers of `ListObjectsV2`: a failure, the last page, or a page and the answers after it. -/
inductive Listing where
  | failed
  | last (objects : List ListedObject)
  | more (objects : List ListedObject) (rest : Listing)

/-- The four fields a manifest needs. -/
structure ManifestFields where
  timestamp : UInt64 := 0
  compatible : String := ""
  revision : String := ""
  image : String := ""
  deriving DecidableEq, Repr

/-- All four fields are there, whatever their values. -/
def hasFields (parsedContent : JsonObject) : Bool :=
  parsedContent.has "image" && parsedContent.has "compatible" && parsedContent.has "revision" &&
    parsedContent.has "timestamp"

/-- The values of the four fields, unless a conversion throws. -/
def readFields (poco : Poco) (parsedContent : JsonObject) : Option ManifestFields := do
  let timestamp ← poco.toUInt64 (parsedContent.get "timestamp")
  let compatible ← poco.toString (parsedContent.get "compatible")
  let revision ← poco.toString (parsedContent.get "revision")
  let image ← poco.toString (parsedContent.get "image")
  return { timestamp, compatible, revision, image }

/-- The branch for a downloaded `.json` object; an exception leaves `ReadBucket`. -/
def readManifest (poco : Poco) (bucket : S3BucketContent) (release content : String) :
    Option S3BucketContent := do
  let parsedContent ← poco.parseObject content
  if hasFields parsedContent then
    let fields ← readFields poco parsedContent
    match bucket[release]? with
    | some entry =>
      return bucket.insert release { entry with
        timestamp := fields.timestamp
        compatible := fields.compatible
        revision := fields.revision
        image := fields.image
        s3ContentManifest := content }
    | none =>
      return bucket.insert release {
        valid := false
        s3Name := ""
        s3ContentManifest := content
        s3TimeStamp := 0
        s3Size := 0
        revision := fields.revision
        image := fields.image
        compatible := fields.compatible
        timestamp := fields.timestamp
        uri := "" }
  else return bucket

/-- The release a `.bin` object belongs to: its base name without the last eight characters. -/
def releaseName (key : String) : String :=
  dropLast 8 (getBaseName key)

/-- The address of a `.bin` object. -/
def objectURI (bucketUri key : String) : String :=
  "https://" ++ bucketUri ++ "/" ++ getFileName key

/-- `(uint64_t)(Millis() / 1000)`. -/
def lastModifiedSeconds (o : ListedObject) : UInt64 :=
  UInt64.ofInt (o.lastModifiedMillis.tdiv 1000)

/-- The size of an object, converted to an unsigned integer. -/
def objectSize (o : ListedObject) : UInt64 :=
  UInt64.ofInt o.size

/-- The branch for a `.bin` object. -/
def readImage (bucketUri : String) (bucket : S3BucketContent) (o : ListedObject) : S3BucketContent :=
  match bucket[releaseName o.key]? with
  | some entry =>
    bucket.insert (releaseName o.key) { entry with
      s3TimeStamp := lastModifiedSeconds o
      s3Size := objectSize o
      s3Name := releaseName o.key
      uri := objectURI bucketUri o.key }
  | none =>
    bucket.insert (releaseName o.key) {
      valid := false
      s3Name := ""
      s3ContentManifest := ""
      s3TimeStamp := lastModifiedSeconds o
      s3Size := objectSize o
      revision := ""
      image := ""
      compatible := ""
      timestamp := 0
      uri := objectURI bucketUri o.key }

/-- The body of the loop over the objects of a page. -/
def readObject (poco : Poco) (bucketUri : String) (bucket : S3BucketContent) (o : ListedObject) :
    Option S3BucketContent :=
  if getExtension o.key = "json" then
    match o.content with
    | some content => readManifest poco bucket (getBaseName o.key) content
    | none => some bucket
  else if getExtension o.key = "bin" then some (readImage bucketUri bucket o)
  else some bucket

/-- The loop over the objects of a page; it gives up as soon as the service is no longer running. -/
def readObjects (poco : Poco) (bucketUri : String) :
    S3BucketContent → List ListedObject → Option (Bool × S3BucketContent)
  | bucket, [] => some (true, bucket)
  | bucket, o :: rest =>
    if !o.running then some (false, bucket)
    else do
      let bucket ← readObject poco bucketUri bucket o
      readObjects poco bucketUri bucket rest

/-- The loop over the pages. -/
def readPages (poco : Poco) (bucketUri : String) :
    S3BucketContent → Listing → Option (Bool × S3BucketContent)
  | bucket, .failed => some (false, bucket)
  | bucket, .last objects => readObjects poco bucketUri bucket objects
  | bucket, .more objects rest => do
    let (continues, bucket) ← readObjects poco bucketUri bucket objects
    if continues then readPages poco bucketUri bucket rest else return (false, bucket)

/-- `ReadBucket`: its result and the map it leaves, unless an exception leaves it. -/
def readBucket (poco : Poco) (bucketUri : String) (listing : Listing) :
    Option (Bool × S3BucketContent) :=
  readPages poco bucketUri ∅ listing

end Fms
