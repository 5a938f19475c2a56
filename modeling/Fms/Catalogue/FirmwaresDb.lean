import Fms.Storage.Records
import Fms.Catalogue.LatestCache
import Fms.Manifest.Bucket

/-! `FirmwaresDB`: the stored firmwares, kept beside the cache of the newest ones. -/

namespace Fms

/-- The `firmwares` table and the `LatestFirmwareCache` of one process. -/
structure Catalogue where
  firmwares : FirmwaresTable := KeyedTable.empty
  latestFirmwareCache : LatestFirmwareCache := {}

/-- What an addition takes from outside: a generated id, and whether the insertion is executed. -/
structure AddContext where
  uuid : String
  executed : Bool := true
  deriving DecidableEq, Repr

namespace FirmwaresDB

/-- The clause for the flagged rows of a device type. -/
def latestClause (deviceType : String) : String :=
  " deviceType='" ++ deviceType ++ "' AND Latest=true "

/-- The clause for the rows of a release and a device type. -/
def nameClause (release deviceType : String) : String :=
  " release='" ++ release ++ "' and DeviceType='" ++ deviceType ++ "' "

/-- The clause for the rows of a revision and a device type. -/
def revisionClause (revision deviceType : String) : String :=
  " Revision='" ++ revision ++ "' and DeviceType='" ++ deviceType ++ "' "

/-- The clause for the rows with an image date below a limit. -/
def ageClause (limit : UInt64) : String :=
  "imageDate < " ++ toString limit.toNat

/-- The loop body that takes the flag from an older row. -/
def clearLatest (t : FirmwaresTable) (row : Firmware) : FirmwaresTable :=
  (Orm.updateRecord t row.id { row with latest := false }).2

/-- `AddFirmware`: its result, the record as the call leaves it, and the catalogue. -/
def addFirmware (type : DBType) (ctx : AddContext) (c : Catalogue) (F : Firmware) :
    Bool × Firmware × Catalogue :=
  let F := { F with id := ctx.uuid }
  let (added, cache) := c.latestFirmwareCache.addToCache F.deviceType F.revision F.id F.imageDate
  let (F, firmwares) :=
    if added then
      match Orm.getRecords type c.firmwares 0 200 (latestClause F.deviceType) with
      | some Fs => ({ F with latest := true }, Fs.foldl clearLatest c.firmwares)
      | none => ({ F with latest := true }, c.firmwares)
    else ({ F with latest := false }, c.firmwares)
  let (created, firmwares) := Orm.createRecord ctx.executed firmwares F
  (created, F, ⟨firmwares, cache⟩)

/-- `UpdateFirmware`. -/
def updateFirmware (c : Catalogue) (id : String) (F : Firmware) : Bool × Catalogue :=
  let (updated, firmwares) := Orm.updateRecord c.firmwares id F
  (updated, { c with firmwares })

/-- `DeleteFirmware`. -/
def deleteFirmware (c : Catalogue) (id : String) : Bool × Catalogue :=
  let (deleted, firmwares) := Orm.deleteRecord c.firmwares id
  (deleted, { c with firmwares })

/-- `RemoveOldFirmware`; the unsigned limit wraps when the clock is below the maximal age. -/
def removeOldFirmware (type : DBType) (now maxAge : UInt64) (c : Catalogue) : Catalogue :=
  { c with firmwares := (Orm.deleteRecords type c.firmwares (ageClause (now - maxAge))).2 }

/-- `GetFirmware`. -/
def getFirmware (c : Catalogue) (id : String) : Option Firmware :=
  Orm.getRecord c.firmwares id

/-- `GetFirmwareByName`. -/
def getFirmwareByName (type : DBType) (c : Catalogue) (release deviceType : String) :
    Option Firmware := do
  let Fs ← Orm.getRecords type c.firmwares 0 2 (nameClause release deviceType)
  Fs.head?

/-- `GetFirmwareByRevision`. -/
def getFirmwareByRevision (type : DBType) (c : Catalogue) (revision deviceType : String) :
    Option Firmware := do
  let Fs ← Orm.getRecords type c.firmwares 0 2 (revisionClause revision deviceType)
  Fs.head?

/-- `PopulateLatestFirmwareCache`. -/
def populateLatestFirmwareCache (type : DBType) (c : Catalogue) : Catalogue :=
  { c with
    latestFirmwareCache :=
      Orm.iterate type c.firmwares ""
        (fun cache F => cache.addToCache F.deviceType F.revision F.id F.imageDate)
        c.latestFirmwareCache }

/-- `FMSObjects::FirmwareAgeDetails`, as far as `ComputeFirmwareAge` fills it. -/
structure FirmwareAgeDetails where
  latestId : String
  image : String
  imageDate : UInt64
  revision : String
  uri : String
  age : UInt64
  latest : Bool
  deriving DecidableEq, Repr

/-- `ComputeFirmwareAge`. -/
def computeFirmwareAge (type : DBType) (c : Catalogue) (deviceType revision : String) :
    Option FirmwareAgeDetails := do
  let currentFirmware := getFirmwareByRevision type c revision deviceType
  let LE ← c.latestFirmwareCache.findLatestFirmware deviceType
  let latestFirmware ← getFirmware c LE.id
  return {
    latestId := latestFirmware.id
    image := latestFirmware.image
    imageDate := latestFirmware.imageDate
    revision := latestFirmware.revision
    uri := latestFirmware.uri
    -- A device on an unknown revision has age zero; the difference wraps for a newer image.
    age :=
      match currentFirmware with
      | some currentFirmware => latestFirmware.imageDate - currentFirmware.imageDate
      | none => 0
    latest := revision = latestFirmware.revision }

/--
`RemoveOldDBEntriesNotInManifest`: the number of ids it removes.

Nothing here catches an exception of the select statement, so without its rows there is no result.
-/
def removeOldDBEntriesNotInManifest (selected : Bool) (bucket : S3BucketContent) (c : Catalogue) :
    Option (Nat × Catalogue) :=
  if selected then
    let idsToBeRemoved := (c.firmwares.rows.filter fun row => !bucket.contains row.release).map Firmware.id
    let firmwares := idsToBeRemoved.foldl (fun t id => (Orm.deleteRecord t id).2) c.firmwares
    some (idsToBeRemoved.length, { c with firmwares })
  else none

end FirmwaresDB

end Fms
