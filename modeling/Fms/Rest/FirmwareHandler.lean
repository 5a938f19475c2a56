import Fms.Catalogue.CacheCoherence
import Fms.Framework.Answers
import Fms.Storage.Convert

/-! `RESTAPI_firmwareHandler`: the documents with which firmwares are added and changed. -/

namespace Fms.FirmwareHandler

/-- `DoPost`; `AddFirmware` generates the id anew. -/
def doPost (poco : Poco) (type : DBType) (ctx : AddContext) (c : Catalogue) (Obj : JsonObject) :
    Answer × Catalogue :=
  match Firmware.fromJson poco Obj {} with
  | (false, _) => (.badRequest Errors.invalidJSONDocument, c)
  | (true, F) =>
    match FirmwaresDB.addFirmware type ctx c F with
    | (true, F, c) => (.object F.toJson, c)
    | (false, _, c) => (.badRequest Errors.recordNotCreated, c)

/-- What a change takes from outside. -/
structure PutContext where
  /-- `Utils::Now`, at the time of the request. -/
  now : UInt64
  /-- `UserInfo_.userinfo.email`. -/
  email : String
  /-- Whether the database executes the update. -/
  executed : Bool := true

/-- The record that `GetFirmware` makes of the columns of a row. -/
def readRow (poco : Poco) (condense : List Var → String) (row : Firmware) : Firmware :=
  FirmwaresDB.convertTuple poco (FirmwaresDB.convertRecord condense row emptyFirmwareTuple) {}

/-- The description after a change, absent where `toString` throws. -/
def takeDescription (poco : Poco) (Obj : JsonObject) (F : Firmware) : Option String :=
  if Obj.has "description" then poco.toString (Obj.get "description") else some F.description

/-- The notes to append, absent where `toString` throws. -/
def takeNotes (poco : Poco) (ctx : PutContext) (Obj : JsonObject) : Option (List NoteInfo) :=
  if Obj.has "notes" then
    (poco.toString (Obj.get "notes")).map fun text =>
      let NIV := RestApiUtils.toObjectArray poco {} (NoteInfo.fromJson poco) text
      NIV.map fun i => { created := ctx.now, createdBy := ctx.email, note := i.note }
  else some []

/-- The record with what a change takes from its document. -/
def merge (poco : Poco) (ctx : PutContext) (Obj : JsonObject) (F : Firmware) : Option Firmware := do
  let description ← takeDescription poco Obj F
  let added ← takeNotes poco ctx Obj
  return { F with description, notes := F.notes ++ added }

/-- `DoPut`. -/
def doPut (poco : Poco) (condense : List Var → String) (ctx : PutContext) (c : Catalogue) (UUID : String)
    (Obj : JsonObject) : Answer × Catalogue :=
  if UUID = "" then (.badRequest Errors.missingUUID, c)
  else
    match FirmwaresDB.getFirmware c UUID with
    | none => (.notFound, c)
    | some row =>
      match Firmware.fromJson poco Obj {} with
      | (false, _) => (.badRequest Errors.invalidJSONDocument, c)
      | (true, _) =>
        match merge poco ctx Obj (readRow poco condense row) with
        -- The exception leaves the handler, and `handleRequest` answers it.
        | none => (.badRequest Errors.internalError, c)
        | some F =>
          match if ctx.executed then FirmwaresDB.updateFirmware c UUID F else (false, c) with
          | (true, c) => (.object F.toJson, c)
          | (false, c) => (.badRequest Errors.recordNotUpdated, c)

variable {poco : Poco} {condense : List Var → String} {type : DBType} {ctx : PutContext} {c : Catalogue}

/-- No document is found malformed: an addition is always made of what has been read. -/
theorem doPost_eq (poco : Poco) (type : DBType) (ctx : AddContext) (c : Catalogue)
    (Obj : JsonObject) :
    doPost poco type ctx c Obj =
      let outcome := FirmwaresDB.addFirmware type ctx c (Firmware.fromJson poco Obj {}).2
      (if outcome.1 then .object outcome.2.1.toJson else .badRequest Errors.recordNotCreated, outcome.2.2) := by
  -- No step of the reading throws as a whole, so there is always a record to add.
  have read : Firmware.fromJson poco Obj {} = (true, (Firmware.fromJson poco Obj {}).2) := rfl
  unfold doPost
  generalize (Firmware.fromJson poco Obj {}).2 = F at read ⊢
  rw [read]
  rcases outcome : FirmwaresDB.addFirmware type ctx c F with ⟨created, added, after⟩
  cases created <;> simp [outcome]

/-- A change keeps the id of the record. -/
theorem id_merge {Obj : JsonObject} {F merged : Firmware} (taken : merge poco ctx Obj F = some merged) :
    merged.id = F.id := by
  simp only [merge, Option.bind_eq_bind, Option.bind_eq_some_iff] at taken
  obtain ⟨description, _, added, _, written⟩ := taken
  rw [← Option.some.inj written]

/-- A record cannot be merged exactly where the description or the notes of the document are no text. -/
theorem merge_eq_none_iff (ctx : PutContext) (Obj : JsonObject) (F : Firmware) :
    merge poco ctx Obj F = none ↔
      (Obj.has "description" ∧ poco.toString (Obj.get "description") = none) ∨
        (Obj.has "notes" ∧ poco.toString (Obj.get "notes") = none) := by
  have description : takeDescription poco Obj F = none ↔
      (Obj.has "description" ∧ poco.toString (Obj.get "description") = none) := by
    rw [takeDescription]
    split <;> simp [*]
  have notes : takeNotes poco ctx Obj = none ↔
      (Obj.has "notes" ∧ poco.toString (Obj.get "notes") = none) := by
    rw [takeNotes]
    split <;> simp [*]
  rw [← description, ← notes, merge]
  -- The description is taken first, and the notes only if that goes through.
  cases takeDescription poco Obj F with
  | none => simp
  | some description =>
    cases takeNotes poco ctx Obj with
    | none => simp
    | some added => simp

/-- A change of a stored row writes the merged record over it, if there is one and the update is executed. -/
theorem doPut_of_row {UUID : String} (named : UUID ≠ "") {row : Firmware}
    (found : FirmwaresDB.getFirmware c UUID = some row) (Obj : JsonObject) :
    doPut poco condense ctx c UUID Obj =
      match merge poco ctx Obj (readRow poco condense row) with
      | none => (.badRequest Errors.internalError, c)
      | some F =>
        if ctx.executed then (.object F.toJson, { c with firmwares := c.firmwares.replace F })
        else (.badRequest Errors.recordNotUpdated, c) := by
  have read : Firmware.fromJson poco Obj {} = (true, (Firmware.fromJson poco Obj {}).2) := rfl
  rw [doPut, if_neg named, found, read]
  cases taken : merge poco ctx Obj (readRow poco condense row) with
  | none => simp only [taken]
  | some F =>
    -- The record has the id of the row, so the update writes the row and no other.
    have own : F.id = UUID := (id_merge taken).trans (KeyedTable.lookup_eq_some.mp found).2
    subst own
    cases executed : ctx.executed with
    | false => simp only [taken, Bool.false_eq_true, if_false]
    | true => simp only [taken, if_true, FirmwaresDB.updateFirmware_id]

/-- A change is refused, with nothing changed, exactly where one of its steps does not go through. -/
theorem refuses_doPut_iff (poco : Poco) (condense : List Var → String) (ctx : PutContext) (c : Catalogue)
    (UUID : String) (Obj : JsonObject) :
    (doPut poco condense ctx c UUID Obj).1.IsError ∧ (doPut poco condense ctx c UUID Obj).2 = c ↔
      UUID = "" ∨ FirmwaresDB.getFirmware c UUID = none ∨
        (Obj.has "description" ∧ poco.toString (Obj.get "description") = none) ∨
        (Obj.has "notes" ∧ poco.toString (Obj.get "notes") = none) ∨ ctx.executed = false := by
  -- The reasons to refuse are checked one after the other.
  by_cases named : UUID = ""
  · simp [doPut, named]
  · cases found : FirmwaresDB.getFirmware c UUID with
    | none => simp [doPut, named, found]
    | some row =>
      rw [doPut_of_row named found, or_iff_right named, or_iff_right nofun, ← or_assoc, ← merge_eq_none_iff ctx Obj
        (readRow poco condense row)]
      cases taken : merge poco ctx Obj (readRow poco condense row) with
      | none => simp
      | some F => cases executed : ctx.executed <;> simp

end Fms.FirmwareHandler
