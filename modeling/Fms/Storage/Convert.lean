import Fms.Storage.Objects

/-! `ORM::DB::Convert`: the database tuples of the three tables and the records they stand for. -/

namespace Fms

namespace Orm

/-- `ORM::FieldType`. -/
inductive FieldType where
  | int | bigint | text | varchar | blob | boolean | real
  deriving DecidableEq, Repr

/-- `ORM::Field`. -/
structure Field where
  name : String
  type : FieldType
  size : Int := 0
  index : Bool := false
  deriving DecidableEq, Repr

/-- The constructor of a field without a type, which the size decides. -/
def Field.sized (N : String) (S : Int) (I : Bool) : Field :=
  { name := N, type := if 0 < S ∧ S < 255 then .varchar else .text, size := S, index := I }

/-- The types a component of a tuple can have. -/
inductive Kind where
  | string | uint64 | bool
  deriving DecidableEq, Repr

/-- The values of a type of components. -/
def Kind.Value : Kind → Type
  | .string => String
  | .uint64 => UInt64
  | .bool => Bool

/-- A component of a tuple, whatever its type. -/
inductive Cell where
  | string (value : String)
  | uint64 (value : UInt64)
  | bool (value : Bool)
  deriving DecidableEq, Repr

/-- The components that a column of a type takes. -/
def FieldType.kind : FieldType → Option Kind
  | .text | .varchar => some .string
  | .bigint => some .uint64
  | .boolean => some .bool
  | .int | .blob | .real => none

/-- A value of a type as a component. -/
def Kind.cell : (kind : Kind) → kind.Value → Cell
  | .string, value => .string value
  | .uint64, value => .uint64 value
  | .bool, value => .bool value

/-- `Poco::Tuple`: one component of every type in a list. -/
def Tuple : List Kind → Type
  | [] => Unit
  | kind :: kinds => kind.Value × Tuple kinds

/-- The type of the component at an index; behind the last there is nothing to hold. -/
def Component : List Kind → Nat → Type
  | [], _ => Unit
  | kind :: _, 0 => kind.Value
  | _ :: kinds, k + 1 => Component kinds k

namespace Tuple

/-- `Tuple::get`. -/
def get : {kinds : List Kind} → Tuple kinds → (k : Nat) → Component kinds k
  | [], T, _ => T
  | _ :: _, T, 0 => T.1
  | _ :: kinds, T, k + 1 => @get kinds T.2 k

/-- `Tuple::set`. -/
def set : {kinds : List Kind} → Tuple kinds → (k : Nat) → Component kinds k → Tuple kinds
  | [], T, _, _ => T
  | _ :: _, T, 0, value => (value, T.2)
  | _ :: kinds, T, k + 1, value => (T.1, @set kinds T.2 k value)

/-- The components in order. -/
def cells : {kinds : List Kind} → Tuple kinds → List Cell
  | [], _ => []
  | kind :: kinds, T => kind.cell T.1 :: @cells kinds T.2

end Tuple

/-- A table carries its records: tuples, columns and JSON objects lose and exchange nothing of them. -/
structure Carries {ρ : Type} {kinds : List Kind} (fields : List Field)
    (convertRecord : ρ → Tuple kinds → Tuple kinds) (convertTuple : Tuple kinds → ρ → ρ)
    (member : ρ → String → Option Cell) (toJson : ρ → JsonObject) (fromJson : FieldReader ρ)
    (fresh : ρ → Prop) (record : ρ) : Prop where
  /-- A record is its tuple read back, whatever the tuple and the record held before. -/
  tuple : ∀ T other, convertTuple (convertRecord record T) other = record
  /-- Every component is the member that the field at its position names. -/
  column : ∀ T, (convertRecord record T).cells.map some = fields.map fun field => member record field.name
  /-- Every component has the type of the column at its position. -/
  kind : fields.map (fun field => field.type.kind) = kinds.map some
  /-- A record is its JSON object read into a fresh one. -/
  json : ∀ start, fresh start → fromJson (toJson record) start = (true, record)

end Orm

namespace RestApiUtils

/-- `to_string` of a vector of records, given how the library condenses an array. -/
def toString {β : Type} (condense : List Var → String) (toJson : β → JsonObject) (ObjectArray : List β) :
    String :=
  if ObjectArray.isEmpty then "[]" else condense (FieldToJson.array toJson ObjectArray)

/-- `to_object_array`, which keeps what it has read where a step throws. -/
def toObjectArray {β : Type} (poco : Poco) (fresh : β) (fromJson : FieldReader β)
    (ObjectString : String) : List β :=
  if ObjectString = "" then []
  else match (poco.parse ObjectString).bind Var.extractArray with
    | some Object => (FieldFromJson.elements (fun element =>
        element.extractObject.map fun InnerObject => (fromJson InnerObject fresh).2) Object).2
    | none => []

end RestApiUtils

namespace FirmwaresDB

open Orm

/-- `FirmwaresDB_Fields`. -/
def fields : List Field := [
  .sized "id" 36 true,
  { name := "release", type := .text },
  { name := "deviceType", type := .text },
  { name := "description", type := .text },
  { name := "revision", type := .text },
  { name := "uri", type := .text },
  { name := "image", type := .text },
  { name := "imageDate", type := .bigint },
  { name := "size", type := .bigint },
  { name := "downloadCount", type := .bigint },
  { name := "firmwareHash", type := .text },
  { name := "owner", type := .text },
  { name := "location", type := .text },
  { name := "uploader", type := .text },
  { name := "digest", type := .text },
  { name := "latest", type := .boolean },
  { name := "notes", type := .text },
  { name := "created", type := .bigint }]

/-- `FirmwaresRecordTuple`. -/
abbrev RecordTuple := Tuple [.string, .string, .string, .string, .string, .string, .string, .uint64,
  .uint64, .uint64, .string, .string, .string, .string, .string, .bool, .string, .uint64]

/-- `Convert` from a tuple to a record. -/
def convertTuple (poco : Poco) (T : RecordTuple) (_ : Firmware) : Firmware := {
  id := T.get 0
  release := T.get 1
  deviceType := T.get 2
  description := T.get 3
  revision := T.get 4
  uri := T.get 5
  image := T.get 6
  imageDate := T.get 7
  size := T.get 8
  downloadCount := T.get 9
  firmwareHash := T.get 10
  owner := T.get 11
  location := T.get 12
  uploader := T.get 13
  digest := T.get 14
  latest := T.get 15
  notes := RestApiUtils.toObjectArray poco {} (NoteInfo.fromJson poco) (T.get 16)
  created := T.get 17 }

/-- `Convert` from a record to a tuple. -/
def convertRecord (condense : List Var → String) (F : Firmware) (T : RecordTuple) : RecordTuple :=
  T |>.set 0 F.id
    |>.set 1 F.release
    |>.set 2 F.deviceType
    |>.set 3 F.description
    |>.set 4 F.revision
    |>.set 5 F.uri
    |>.set 6 F.image
    |>.set 7 F.imageDate
    |>.set 8 F.size
    |>.set 9 F.downloadCount
    |>.set 10 F.firmwareHash
    |>.set 11 F.owner
    |>.set 12 F.location
    |>.set 13 F.uploader
    |>.set 14 F.digest
    |>.set 15 F.latest
    |>.set 16 (RestApiUtils.toString condense NoteInfo.toJson F.notes)
    |>.set 17 F.created

/-- The member of a record with a name. -/
def member (condense : List Var → String) (F : Firmware) : String → Option Cell
  | "id" => some (.string F.id)
  | "release" => some (.string F.release)
  | "deviceType" => some (.string F.deviceType)
  | "description" => some (.string F.description)
  | "revision" => some (.string F.revision)
  | "uri" => some (.string F.uri)
  | "image" => some (.string F.image)
  | "imageDate" => some (.uint64 F.imageDate)
  | "size" => some (.uint64 F.size)
  | "downloadCount" => some (.uint64 F.downloadCount)
  | "firmwareHash" => some (.string F.firmwareHash)
  | "owner" => some (.string F.owner)
  | "location" => some (.string F.location)
  | "uploader" => some (.string F.uploader)
  | "digest" => some (.string F.digest)
  | "latest" => some (.bool F.latest)
  | "notes" => some (.string (RestApiUtils.toString condense NoteInfo.toJson F.notes))
  | "created" => some (.uint64 F.created)
  | _ => none

end FirmwaresDB

namespace DevicesDB

open Orm

/-- `DevicesDB_Fields`. -/
def fields : List Field := [
  .sized "serialNumber" 36 true,
  { name := "revision", type := .text },
  { name := "deviceType", type := .text },
  { name := "endPoint", type := .text },
  { name := "lastUpdate", type := .bigint },
  { name := "status", type := .text }]

/-- `DevicesRecordTuple`. -/
abbrev RecordTuple := Tuple [.string, .string, .string, .string, .uint64, .string]

/-- `Convert` from a tuple to a record. -/
def convertTuple (T : RecordTuple) (_ : DeviceConnectionInformation) : DeviceConnectionInformation := {
  serialNumber := T.get 0
  revision := T.get 1
  deviceType := T.get 2
  endPoint := T.get 3
  lastUpdate := T.get 4
  status := T.get 5 }

/-- `Convert` from a record to a tuple. -/
def convertRecord (F : DeviceConnectionInformation) (T : RecordTuple) : RecordTuple :=
  T |>.set 0 F.serialNumber
    |>.set 1 F.revision
    |>.set 2 F.deviceType
    |>.set 3 F.endPoint
    |>.set 4 F.lastUpdate
    |>.set 5 F.status

/-- The member of a record with a name. -/
def member (F : DeviceConnectionInformation) : String → Option Cell
  | "serialNumber" => some (.string F.serialNumber)
  | "revision" => some (.string F.revision)
  | "deviceType" => some (.string F.deviceType)
  | "endPoint" => some (.string F.endPoint)
  | "lastUpdate" => some (.uint64 F.lastUpdate)
  | "status" => some (.string F.status)
  | _ => none

end DevicesDB

namespace HistoryDB

open Orm

/-- `HistoryDB_Fields`. -/
def fields : List Field := [
  .sized "id" 36 true,
  { name := "serialNumber", type := .text },
  { name := "fromRelease", type := .text },
  { name := "toRelease", type := .text },
  { name := "commandUUID", type := .text },
  { name := "revisionId", type := .text },
  { name := "upgraded", type := .bigint }]

/-- `HistoryRecordTuple`. -/
abbrev RecordTuple := Tuple [.string, .string, .string, .string, .string, .string, .uint64]

/-- `Convert` from a tuple to a record. -/
def convertTuple (T : RecordTuple) (_ : RevisionHistoryEntry) : RevisionHistoryEntry := {
  id := T.get 0
  serialNumber := T.get 1
  fromRelease := T.get 2
  toRelease := T.get 3
  commandUUID := T.get 4
  revisionId := T.get 5
  upgraded := T.get 6 }

/-- `Convert` from a record to a tuple. -/
def convertRecord (F : RevisionHistoryEntry) (T : RecordTuple) : RecordTuple :=
  T |>.set 0 F.id
    |>.set 1 F.serialNumber
    |>.set 2 F.fromRelease
    |>.set 3 F.toRelease
    |>.set 4 F.commandUUID
    |>.set 5 F.revisionId
    |>.set 6 F.upgraded

/-- The member of a record with a name. -/
def member (F : RevisionHistoryEntry) : String → Option Cell
  | "id" => some (.string F.id)
  | "serialNumber" => some (.string F.serialNumber)
  | "fromRelease" => some (.string F.fromRelease)
  | "toRelease" => some (.string F.toRelease)
  | "commandUUID" => some (.string F.commandUUID)
  | "revisionId" => some (.string F.revisionId)
  | "upgraded" => some (.uint64 F.upgraded)
  | _ => none

end HistoryDB

/-- The library reads an array back from its condensed text, and nothing from the empty text. -/
structure Poco.ReadsBack (poco : Poco) (condense : List Var → String) (elements : List Var) : Prop where
  condensed : poco.parse (condense elements) = some (.array elements)
  brackets : poco.parse "[]" = some (.array [])
  nothing : poco.parse "" = none

/-- The column of notes is read back as the notes. -/
theorem RestApiUtils.toObjectArray_toString {poco : Poco} (converts : poco.Converts)
    {condense : List Var → String} {notes : List NoteInfo}
    (readsBack : poco.ReadsBack condense (FieldToJson.array NoteInfo.toJson notes)) :
    toObjectArray poco {} (NoteInfo.fromJson poco) (toString condense NoteInfo.toJson notes) = notes := by
  -- No array is condensed to the empty text, which the reader would take for no notes.
  have parsed : poco.parse (toString condense NoteInfo.toJson notes) =
      some (.array (FieldToJson.array NoteInfo.toJson notes)) := by
    cases notes with
    -- The empty vector is written as brackets, without the library.
    | nil => exact readsBack.brackets
    | cons note rest => exact readsBack.condensed
  have nonempty : toString condense NoteInfo.toJson notes ≠ "" := by
    intro empty
    rw [empty, readsBack.nothing] at parsed
    exact absurd parsed (by simp)
  have elements := FieldToJson.elements_array
    (fun inner => NoteInfo.fromJson_toJson converts inner {}) notes
  rw [toObjectArray, if_neg nonempty, parsed]
  simp only [Option.bind_some, Var.extractArray, elements]

/-- Firmware records are carried. -/
theorem FirmwaresDB.carries {poco : Poco} (converts : poco.Converts) {condense : List Var → String}
    (F : Firmware) (readsBack : poco.ReadsBack condense (FieldToJson.array NoteInfo.toJson F.notes)) :
    Orm.Carries fields (convertRecord condense) (convertTuple poco) (member condense) Firmware.toJson
      (Firmware.fromJson poco) (· = {}) F := by
  refine ⟨fun T other => ?tuple, fun T => rfl, by decide, fun start fresh => ?json⟩
  case tuple =>
    -- Every component but the notes is stored as it is.
    have notes := RestApiUtils.toObjectArray_toString converts readsBack
    have read : convertTuple poco (convertRecord condense F T) other = { F with
        notes := RestApiUtils.toObjectArray poco {} (NoteInfo.fromJson poco)
          (RestApiUtils.toString condense NoteInfo.toJson F.notes) } := rfl
    rw [read, notes]
  case json =>
    -- Notes are read in behind those that are there, and a fresh record has none.
    rw [Firmware.fromJson_toJson converts, fresh, List.nil_append]

/-- Device records are carried; a fresh one has no known time. -/
theorem DevicesDB.carries {poco : Poco} (converts : poco.Converts) (D : DeviceConnectionInformation) :
    Orm.Carries fields convertRecord convertTuple member DeviceConnectionInformation.toJson
      (DeviceConnectionInformation.fromJson poco) (fun fresh => ∃ lastUpdate, fresh = { lastUpdate }) D where
  tuple _ _ := rfl
  column _ := rfl
  kind := by decide
  json start _ := DeviceConnectionInformation.fromJson_toJson converts D start

/-- History records are carried; a fresh one has no known time. -/
theorem HistoryDB.carries {poco : Poco} (converts : poco.Converts) (H : RevisionHistoryEntry) :
    Orm.Carries fields convertRecord convertTuple member RevisionHistoryEntry.toJson
      (RevisionHistoryEntry.fromJson poco) (fun fresh => ∃ upgraded, fresh = { upgraded }) H where
  tuple _ _ := rfl
  column _ := rfl
  kind := by decide
  json start _ := RevisionHistoryEntry.fromJson_toJson converts H start

/-- A column of a statement has the value of a component for a row. -/
def Orm.Reads {ρ : Type} (row : ρ) : Sql.Column ρ → Orm.Cell → Prop
  | .text read, .string value => read row = value
  | .number read, .uint64 value => read row = bigint value
  | .boolean read, .bool value => read row = value
  | _, _ => False

/-- The columns that clauses name are the components of the tuples, but for the notes. -/
theorem FirmwaresDB.columns_read (condense : List Var → String) (F : Firmware) :
    ∀ field ∈ fields, field.name ≠ "notes" →
      ∃ column cell, firmwareColumns (Sql.lower field.name) = some column ∧
        member condense F field.name = some cell ∧ Orm.Reads F column cell := by
  intro field inside named
  simp only [fields, List.mem_cons, List.not_mem_nil, or_false] at inside
  -- One case for each of the eighteen fields, of which the notes are left out.
  rcases inside with rfl | rfl | rfl | rfl | rfl | rfl | rfl | rfl | rfl | rfl | rfl | rfl | rfl | rfl | rfl |
    rfl | rfl | rfl
  all_goals first | exact ⟨_, _, rfl, rfl, rfl⟩ | exact absurd rfl named

/-- The columns that clauses name are the components of the tuples. -/
theorem DevicesDB.columns_read (D : DeviceConnectionInformation) :
    ∀ field ∈ fields, ∃ column cell, deviceColumns (Sql.lower field.name) = some column ∧
      member D field.name = some cell ∧ Orm.Reads D column cell := by
  -- All six fields are columns that clauses may name.
  intro field inside
  simp only [fields, List.mem_cons, List.not_mem_nil, or_false] at inside
  rcases inside with rfl | rfl | rfl | rfl | rfl | rfl
  all_goals exact ⟨_, _, rfl, rfl, rfl⟩

/-- The columns that clauses name are the components of the tuples. -/
theorem HistoryDB.columns_read (H : RevisionHistoryEntry) :
    ∀ field ∈ fields, ∃ column cell, historyColumns (Sql.lower field.name) = some column ∧
      member H field.name = some cell ∧ Orm.Reads H column cell := by
  -- All seven fields are columns that clauses may name.
  intro field inside
  simp only [fields, List.mem_cons, List.not_mem_nil, or_false] at inside
  rcases inside with rfl | rfl | rfl | rfl | rfl | rfl | rfl
  all_goals exact ⟨_, _, rfl, rfl, rfl⟩

/-- Every record of the three tables is carried, with any list of notes. -/
theorem records_carried {poco : Poco} (converts : poco.Converts) {condense : List Var → String} :
    (∀ F : Firmware, poco.ReadsBack condense (FieldToJson.array NoteInfo.toJson F.notes) →
      Orm.Carries FirmwaresDB.fields (FirmwaresDB.convertRecord condense) (FirmwaresDB.convertTuple poco)
        (FirmwaresDB.member condense) Firmware.toJson (Firmware.fromJson poco) (· = {}) F) ∧
    (∀ D : DeviceConnectionInformation,
      Orm.Carries DevicesDB.fields DevicesDB.convertRecord DevicesDB.convertTuple DevicesDB.member
        DeviceConnectionInformation.toJson (DeviceConnectionInformation.fromJson poco)
        (fun fresh => ∃ lastUpdate, fresh = { lastUpdate }) D) ∧
    (∀ H : RevisionHistoryEntry,
      Orm.Carries HistoryDB.fields HistoryDB.convertRecord HistoryDB.convertTuple HistoryDB.member
        RevisionHistoryEntry.toJson (RevisionHistoryEntry.fromJson poco)
        (fun fresh => ∃ upgraded, fresh = { upgraded }) H) :=
  ⟨fun F readsBack => FirmwaresDB.carries converts F readsBack, fun D => DevicesDB.carries converts D,
    fun H => HistoryDB.carries converts H⟩

/-- A firmware with two notes. -/
def notedFirmware : Firmware where
  id := "f1"
  release := "2.8"
  deviceType := "cig_wf188n"
  imageDate := 18446744073709551615
  latest := true
  notes := [{ created := 1, createdBy := "root", note := "it's new" }, { created := 2, note := "" }]

/-- The text of the two notes. -/
def notedText : String :=
  "[\x7b\"created\":1,\"createdBy\":\"root\",\"note\":\"it's new\"\x7d," ++
    "\x7b\"created\":2,\"createdBy\":\"\",\"note\":\"\"\x7d]"

/-- The library on the documents the two notes need. -/
def notedDocuments : Poco := Poco.onDocuments [("[]", .array []),
  (notedText, .array (FieldToJson.array NoteInfo.toJson notedFirmware.notes))]

/-- A tuple before anything has been set. -/
def emptyFirmwareTuple : FirmwaresDB.RecordTuple :=
  ("", "", "", "", "", "", "", (0 : UInt64), (0 : UInt64), (0 : UInt64), "", "", "", "", "", false, "",
    (0 : UInt64), ())

/-- The firmware with two notes comes back from its tuple and from its object. -/
theorem notedFirmware_carried :
    FirmwaresDB.convertTuple notedDocuments
        (FirmwaresDB.convertRecord (fun _ => notedText) notedFirmware emptyFirmwareTuple) {} = notedFirmware ∧
      Firmware.fromJson notedDocuments (Firmware.toJson notedFirmware) {} = (true, notedFirmware) := by
  -- The library only has to read back the one text that these notes are condensed to.
  have carried := (@records_carried notedDocuments (Poco.converts_onDocuments _) fun _ => notedText).1
    notedFirmware ⟨rfl, rfl, rfl⟩
  exact ⟨carried.tuple emptyFirmwareTuple {}, carried.json {} rfl⟩

end Fms
