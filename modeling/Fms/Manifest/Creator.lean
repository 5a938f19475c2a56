import Fms.Catalogue.FirmwaresDb
import Fms.Manifest.Bucket

/-! `ManifestCreator`: one refresh of the catalogue from the bucket. -/

namespace Fms

/-- The configuration and the libraries a refresh works with. -/
structure ManifestConfig where
  type : DBType
  poco : Poco
  /-- `s3.bucket.uri`. -/
  bucketUri : String
  /-- `MaxAge_`, in seconds. -/
  maxAge : UInt64

/--
The body of the loop of `ComputeManifest`.

An exception keeps what the entry has been given so far, and leaves its validity alone.
-/
def computeEntry (poco : Poco) (limit : UInt64) (name : String) (entry : S3BucketEntry) :
    S3BucketEntry :=
  match poco.parseObject entry.s3ContentManifest with
  | none => entry
  | some parsedContent =>
    if hasFields parsedContent then
      match poco.toUInt64 (parsedContent.get "timestamp") with
      | none => entry
      | some timestamp =>
        let entry := { entry with timestamp }
        if limit < entry.timestamp then
          match poco.toString (parsedContent.get "compatible") with
          | none => entry
          | some compatible =>
            let entry := { entry with compatible }
            match poco.toString (parsedContent.get "revision") with
            | none => entry
            | some revision =>
              let entry := { entry with revision }
              match poco.toString (parsedContent.get "image") with
              | none => entry
              | some image =>
                let entry := { entry with image }
                if name ++ "-upgrade.bin" ≠ entry.image then { entry with valid := false }
                else { entry with valid := true }
        else { entry with valid := false }
    else { entry with valid := false }

/-- `ComputeManifest`, for an age limit. -/
def computeManifest (poco : Poco) (limit : UInt64) (bucket : S3BucketContent) : S3BucketContent :=
  bucket.map (computeEntry poco limit)

/-- What an insertion loop takes from outside, for each release it may insert. -/
structure ManifestContext where
  created : String → UInt64
  addition : String → AddContext
  /-- Whether the statement that lists the stored releases is executed. -/
  selected : Bool := true

/-- The record the insertion loop builds from an entry. -/
def firmwareOf (created : UInt64) (release : String) (entry : S3BucketEntry) : Firmware where
  release := release
  size := entry.s3Size
  created := created
  imageDate := entry.s3TimeStamp
  image := entry.image
  uri := entry.uri
  revision := entry.revision
  deviceType := entry.compatible

/-- The body of the insertion loop of `AddManifestToDB`, for a release and its entry. -/
def insertEntry (type : DBType) (ctx : ManifestContext) (c : Catalogue)
    (item : String × S3BucketEntry) : Catalogue :=
  if item.2.valid && (FirmwaresDB.getFirmwareByName type c item.1 item.2.compatible).isNone then
    (FirmwaresDB.addFirmware type (ctx.addition item.1) c
      (firmwareOf (ctx.created item.1) item.1 item.2)).2.2
  else c

/-- Whether an entry is a staging build. -/
def isStaging (entry : S3BucketEntry) : Bool :=
  occursIn "-staging-" entry.uri

/-- The map without its staging builds. -/
def removeStaging (bucket : S3BucketContent) : S3BucketContent :=
  bucket.filter fun _ entry => !isStaging entry

/-- `AddManifestToDB`, unless an exception leaves it. -/
def addManifestToDB (type : DBType) (ctx : ManifestContext) (bucket : S3BucketContent)
    (c : Catalogue) : Option Catalogue := do
  let bucket := removeStaging bucket
  let (_, c) ← FirmwaresDB.removeOldDBEntriesNotInManifest ctx.selected bucket c
  return bucket.toList.foldl (insertEntry type ctx) c

/-- What a refresh takes from outside. -/
structure RefreshContext where
  /-- The clock of `RemoveOldFirmware`. -/
  removalTime : UInt64
  listing : Listing
  /-- The clock of `ComputeManifest`. -/
  computeTime : UInt64
  manifest : ManifestContext

/-- The last three calls of `run`, from the listing to the stored rows. -/
def reconcile (config : ManifestConfig) (ctx : RefreshContext) (c : Catalogue) : Option Catalogue := do
  -- The result of the listing is dropped; only the map is used.
  let (_, bucket) ← readBucket config.poco config.bucketUri ctx.listing
  let bucket := computeManifest config.poco (ctx.computeTime - config.maxAge) bucket
  addManifestToDB config.type ctx.manifest bucket c

/-- What `run` leaves behind. -/
structure RefreshOutcome where
  catalogue : Catalogue
  /-- Whether `run` reaches its last statements, which set `LastUpdate_` and clear `UpdateRunning_`. -/
  completed : Bool

/-- The body of `ManifestCreator::run` up to its last two statements. -/
def refresh (config : ManifestConfig) (ctx : RefreshContext) (c : Catalogue) : RefreshOutcome :=
  let c := FirmwaresDB.removeOldFirmware config.type ctx.removalTime config.maxAge c
  match reconcile config ctx c with
  | some catalogue => ⟨catalogue, true⟩
  | none => ⟨c, false⟩

end Fms
