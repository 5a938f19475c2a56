import Fms.Catalogue.FailedAddition
import Fms.Rest.FirmwareHandler

/-! Documents with values that cannot be converted, and what the firmware handler makes of them. -/

namespace Fms.FirmwareHandler

/-- A document with a note of which some member cannot be converted. -/
def BadNote (poco : Poco) (Obj : JsonObject) : Prop :=
  ∃ elements inner, Obj.get "notes" = .array elements ∧ .object inner ∈ elements ∧
    (NoteInfo.fromJson poco inner {}).1 = false

/--
A document in which some field of a firmware has a value that cannot be converted to the field's type.

Either a step of the reader throws, or the notes are no array, or one of them cannot be read.
-/
def Malformed (poco : Poco) (Obj : JsonObject) : Prop :=
  (FieldFromJson.all (Firmware.readers poco) Obj {}).1 = false ∨
    ((Obj.get "notes").isNull = false ∧ (Obj.get "notes").extractArray = none) ∨ BadNote poco Obj

/-- A request is answered with an error, and the table and the cache are as before. -/
def Refuses (c : Catalogue) (result : Answer × Catalogue) : Prop :=
  result.1.IsError ∧ result.2 = c

/-- The addition of a record that fails, takes no flag, and has nothing new for the cache. -/
def AdditionRefused (type : DBType) (ctx : AddContext) (c : Catalogue) (F : Firmware) : Prop :=
  (ctx.executed = false ∨ ∃ row ∈ c.firmwares.rows, row.id = ctx.uuid) ∧
    FirmwaresDB.losesFlag type c F.deviceType = [] ∧
      c.latestFirmwareCache.Absorbs (FirmwaresDB.addition (FirmwaresDB.stored ctx F))

/-- A change that does not get as far as writing the row. -/
def ChangeRefused (poco : Poco) (ctx : PutContext) (c : Catalogue) (UUID : String) (Obj : JsonObject) : Prop :=
  UUID = "" ∨ FirmwaresDB.getFirmware c UUID = none ∨
    (Obj.has "description" ∧ poco.toString (Obj.get "description") = none) ∨
    (Obj.has "notes" ∧ poco.toString (Obj.get "notes") = none) ∨ ctx.executed = false

/-- An addition is refused exactly where the database refuses it and it has nothing else to change. -/
theorem refuses_doPost_iff (poco : Poco) (type : DBType) (ctx : AddContext) (c : Catalogue) (Obj : JsonObject) :
    Refuses c (doPost poco type ctx c Obj) ↔
      AdditionRefused type ctx c (Firmware.fromJson poco Obj {}).2 := by
  rw [Refuses, AdditionRefused, doPost_eq]
  generalize (Firmware.fromJson poco Obj {}).2 = F
  have failure := FirmwaresDB.addFirmware_fails_iff type ctx c F
  cases failed : (FirmwaresDB.addFirmware type ctx c F).1 with
  | true =>
    -- The record is stored, whatever the document was like.
    rw [failed] at failure
    simp [← failure, failed]
  | false =>
    rw [← FirmwaresDB.addFirmware_unchanged_iff type ctx c F failed, ← failure]
    simp [failed]

/--
A malformed document is refused exactly where what is read from it is.

What `from_json` returns is true also where it has caught an exception, so neither handler sees the difference: a `POST`
adds the record that has been read by then, and a `PUT` looks at the description and the notes alone.  The addition of a
record takes no flag where no stored row of its device type has one, for every device type that can be quoted as it is.
-/
theorem malformed_refused_iff (poco : Poco) (Obj : JsonObject) :
    (∀ (type : DBType) (ctx : AddContext) (c : Catalogue),
      (Malformed poco Obj → Refuses c (doPost poco type ctx c Obj)) ↔
        (Malformed poco Obj → AdditionRefused type ctx c (Firmware.fromJson poco Obj {}).2)) ∧
    (∀ (condense : List Var → String) (ctx : PutContext) (c : Catalogue) (UUID : String),
      (Malformed poco Obj → Refuses c (doPut poco condense ctx c UUID Obj)) ↔
        (Malformed poco Obj → ChangeRefused poco ctx c UUID Obj)) ∧
    ∀ (type : DBType) (c : Catalogue) (deviceType : String), Sql.Plain type.dialect deviceType →
      (FirmwaresDB.losesFlag type c deviceType = [] ↔
        ∀ row ∈ c.firmwares.rows, row.deviceType = deviceType → row.latest = false) := by
  -- Being malformed is not among the reasons to refuse, for either handler.
  refine ⟨?_, ?_, fun type c deviceType plain => FirmwaresDB.losesFlag_eq_nil_iff plain⟩
  · intro type ctx c
    rw [refuses_doPost_iff]
  · intro condense ctx c UUID
    rw [Refuses, refuses_doPut_iff, ChangeRefused]

/-- The size of a firmware is an object, and the firmware is added without the fields after it. -/
theorem malformed_refused_fails :
    ¬ ∀ (poco : Poco) (type : DBType) (ctx : AddContext) (c : Catalogue) (Obj : JsonObject),
      Malformed poco Obj → Refuses c (doPost poco type ctx c Obj) := by
  -- The size is an object, and the firmware is added all the same.
  intro refused
  have same := refused (Poco.onDocuments []) .sqlite ⟨"f1", true⟩ {}
    [("deviceType", .string "eap101"), ("size", .object []), ("owner", .string "tip")] (Or.inl rfl)
  have added := (refuses_doPost_iff _ _ _ _ _).mp same
  exact absurd added.1 (by decide)

end Fms.FirmwareHandler
