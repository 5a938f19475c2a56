import Std.Data.ExtTreeMap.Lemmas
import Fms.Poco.Text
import Fms.Storage.Clauses
import Fms.Storage.Convert

/-! The constructor of `ORM::DB`, and the statements of `Create`. -/

namespace Fms

namespace Orm

open Std

/-- `Indextype`. -/
inductive Indextype where
  | asc | desc
  deriving DecidableEq, Repr

/-- A `Field` whose name is one word of a statement. -/
structure NamedField where
  name : FieldName
  type : FieldType
  size : Int := 0
  index : Bool := false

/-- `IndexEntry`. -/
structure IndexEntry where
  fieldName : String
  type : Indextype
  deriving DecidableEq, Repr

/-- The name of a table or of an index, which a statement spells like that of a field. -/
abbrev Identifier := FieldName

/-- `Index`. -/
structure Index where
  name : Identifier
  entries : List IndexEntry

/-- `FieldTypeToChar`. -/
def fieldTypeToChar (type : DBType) (t : FieldType) (size : Int) : String :=
  match t with
  | .int => "INT"
  | .bigint => "BIGINT"
  | .text => "TEXT"
  | .boolean => "BOOLEAN"
  | .varchar => if size ≠ 0 then "VARCHAR(" ++ toString size ++ ")" else "TEXT"
  | .blob =>
    match type with
    | .mysql => "LONGBLOB"
    | .pgsql => "BYTEA"
    | .sqlite => "BLOB"
  | .real => "REAL"

/-- The members of `ORM::DB` that its constructor fills. -/
structure DB where
  tableName : String
  type : DBType
  fieldNames : ExtTreeMap String Nat := ∅
  createFields : String := ""
  selectFields : String := ""
  updateFields : String := ""
  selectList : String := ""
  indexCreation : List String := []

/-- The loop of the constructor over the fields, with its flag and its counter. -/
def addFields (db : DB) (first : Bool) (place : Nat) : List NamedField → DB
  | [] => db
  | i :: rest =>
    let fieldName := toLower i.name.text
    let db := { db with fieldNames := db.fieldNames.insert fieldName place }
    let db :=
      if !first then
        { db with
          createFields := db.createFields ++ ", "
          selectFields := db.selectFields ++ ", "
          updateFields := db.updateFields ++ ", "
          selectList := db.selectList ++ ", " }
      else { db with selectList := db.selectList ++ "(" }
    addFields
      { db with
        createFields := db.createFields ++ fieldName ++ " " ++ fieldTypeToChar db.type i.type i.size ++
          (if i.index then " unique primary key" else "")
        selectFields := db.selectFields ++ fieldName
        updateFields := db.updateFields ++ fieldName ++ "=?"
        selectList := db.selectList ++ "?" }
      false (place + 1) rest

/-- The loop over the entries of an index, with its flag and the separator of the backend. -/
@[grind =]
def addEntries (separator : String) (indexLine : String) (firstEntry : Bool) : List IndexEntry → String
  | [] => indexLine
  | k :: rest =>
    let indexFieldName := toLower k.fieldName
    let indexLine := if !firstEntry then indexLine ++ separator else indexLine
    addEntries separator
      (indexLine ++ indexFieldName ++ (if k.type = .asc then " ASC" else " DESC")) false rest

/-- The statement that creates an index of its own. -/
def indexStatement (tableName : String) (j : Index) : String :=
  addEntries " , " ("CREATE INDEX IF NOT EXISTS " ++ j.name.text ++ " ON " ++ tableName ++ " (") true
    j.entries ++ " )"

/-- The loop of the constructor over the indexes on MySQL, with its flag. -/
def addIndexes (indexLine : String) (firstIndex : Bool) : List Index → String
  | [] => indexLine
  | j :: rest =>
    let indexLine := if !firstIndex then indexLine ++ ", " else indexLine
    addIndexes (addEntries " ," (indexLine ++ " INDEX " ++ j.name.text ++ " ( ") true j.entries ++ " ) ") false
      rest

/-- The constructor; the fields of the indexes are asserted to be fields of the table. -/
def newDB (dbtype : DBType) (tableName : Identifier) (fields : List NamedField) (indexes : List Index) : DB :=
  let db := addFields { tableName := tableName.text, type := dbtype } true 0 fields
  let db := { db with selectList := db.selectList ++ ")" }
  if indexes.isEmpty then db
  else
    match dbtype with
    | .sqlite | .pgsql => { db with indexCreation := indexes.map (indexStatement db.tableName) }
    | .mysql => { db with indexCreation := [addIndexes "" true indexes] }

/-- The statements that `Create` sends, in order, until one of them fails. -/
def DB.createStatements (db : DB) : List String :=
  match db.type with
  | .mysql =>
    match db.indexCreation with
    | [] => ["create table if not exists " ++ db.tableName ++ " ( " ++ db.createFields ++ " )"]
    | first :: _ =>
      ["create table if not exists " ++ db.tableName ++ " ( " ++ db.createFields ++ " ), " ++ first ++ " )"]
  | .sqlite | .pgsql =>
    ("create table if not exists " ++ db.tableName ++ " ( " ++ db.createFields ++ " )") :: db.indexCreation

/-- A text names a field, whatever its case. -/
def IsField (fields : List NamedField) (text : String) : Prop :=
  ∃ field ∈ fields, toLower field.name.text = toLower text

/-- The loop over the fields changes neither the table's name nor its product, and makes no index. -/
theorem addFields_frame (fields : List NamedField) (db : DB) (first : Bool) (place : Nat) :
    (addFields db first place fields).tableName = db.tableName ∧
      (addFields db first place fields).type = db.type ∧
      (addFields db first place fields).indexCreation = db.indexCreation := by
  -- No round touches these members, whichever of its branches it takes.
  induction fields generalizing db first place with
  | nil => exact ⟨rfl, rfl, rfl⟩
  | cons i rest ih =>
    rw [addFields]
    refine ⟨(ih _ _ _).1.trans ?_, (ih _ _ _).2.1.trans ?_, (ih _ _ _).2.2.trans ?_⟩
    · cases first <;> rfl
    · cases first <;> rfl
    · cases first <;> rfl

/-- The constructor knows a name exactly if it is that of a field, whatever its case. -/
theorem mem_fieldNames (fields : List NamedField) (db : DB) (first : Bool) (place : Nat) (name : String) :
    name ∈ (addFields db first place fields).fieldNames ↔
      name ∈ db.fieldNames ∨ ∃ field ∈ fields, toLower field.name.text = name := by
  -- Every round inserts the name of its field.
  induction fields generalizing db first place with
  | nil => simp [addFields]
  | cons i rest ih =>
    rw [addFields, ih]
    cases first <;> simp [ExtTreeMap.mem_insert, or_assoc, or_left_comm]

end Orm

end Fms
