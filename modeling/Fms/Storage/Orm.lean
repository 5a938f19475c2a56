import Fms.Relation.Table
import Fms.Sql.Condition
import Fms.Sql.Escaping

/-! The operations of `ORM::DB` on a table, with where clauses read as the text the service sends. -/

namespace Fms

/-- The database product behind the connection pool. -/
inductive DBType where
  | sqlite | pgsql | mysql
  deriving DecidableEq, Repr

/--
Only MySQL treats a backslash in a string literal as an escape by default, and only MySQL is given the length of a
statement; the others read it up to its first null character.
-/
def DBType.dialect : DBType → Sql.Dialect
  | .mysql => ⟨true, false⟩
  | .sqlite | .pgsql => ⟨false, true⟩

/-- A table of records: how its columns are read, and its primary key. -/
structure Schema (ρ : Type) where
  /-- The columns by their name in lower case. -/
  columns : String → Option (Sql.Column ρ)
  /-- The column declared `unique primary key`. -/
  key : ρ → String

/-- The stored records of a schema. -/
abbrev Schema.Table {ρ : Type} (schema : Schema ρ) := KeyedTable ρ String schema.key

namespace Orm

variable {ρ : Type} {schema : Schema ρ}

/-- The rows a select statement returns before its range is cut, or nothing when the database throws. -/
def matching (type : DBType) (t : schema.Table) (whereText : String) : Option (List ρ) :=
  if whereText = "" then some t.rows
  else (Sql.whereClause type.dialect schema.columns whereText).map t.select

/-- `ORM::Escape`: every quote is doubled. -/
def escape (S : String) : String :=
  S.toList.foldl (fun R i => if i = '\'' then R ++ "''" else R.push i) ""

/-- `GetRecords`: one page of the matching rows; it fails on an empty page and on an exception. -/
def getRecords (type : DBType) (t : schema.Table) (offset howMany : Nat) (whereText : String) :
    Option (List ρ) := do
  let rows ← matching type t whereText
  let page := (rows.drop offset).take howMany
  if page.isEmpty then none else some page

/-- `GetRecord` on the primary key, whose value is bound to the statement and never spliced into it. -/
def getRecord (t : schema.Table) (value : String) : Option ρ :=
  t.lookup value

/-- `CreateRecord`: the insertion fails when the key is taken or the database does not execute it. -/
def createRecord (executed : Bool) (t : schema.Table) (record : ρ) : Bool × schema.Table :=
  match if executed then t.insert record else none with
  | some grown => (true, grown)
  | none => (false, t)

/-- `UpdateRecord` on the primary key: every column of the addressed row is written. -/
def updateRecord (t : schema.Table) (value : String) (record : ρ) : Bool × schema.Table :=
  match t.update value record with
  | some written => (true, written)
  | none => (false, t)

/-- `DeleteRecord` on the primary key, which reports success whether or not a row was there. -/
def deleteRecord (t : schema.Table) (value : String) : Bool × schema.Table :=
  (true, t.delete fun row => schema.key row = value)

/-- `DeleteRecords`: remove the rows a where clause selects. -/
def deleteRecords (type : DBType) (t : schema.Table) (whereText : String) : Bool × schema.Table :=
  match Sql.whereClause type.dialect schema.columns whereText with
  | some condition => (true, t.delete condition)
  | none => (false, t)

/-- Escaping writes the characters one by one, each quote as two. -/
theorem toList_escape (S : String) :
    (escape S).toList = S.toList.flatMap fun i => if i = '\'' then ['\'', '\''] else [i] := by
  -- The loop appends to a result that already holds the escaped front.
  have general : ∀ (cs : List Char) (R : String),
      (cs.foldl (fun R i => if i = '\'' then R ++ "''" else R.push i) R).toList =
        R.toList ++ cs.flatMap fun i => if i = '\'' then ['\'', '\''] else [i] := by
    intro cs
    induction cs with
    | nil => intro R; simp
    | cons i rest ih =>
      intro R
      by_cases quote : i = '\'' <;> simp [ih, quote]
  simpa [escape] using general S.toList ""

/-- Without backslash escapes, a text in which the statement goes on is spelled by its escaped form. -/
theorem spells_escape {dialect : Sql.Dialect} (standard : dialect.backslashEscapes = false)
    {S : String} (uncut : Sql.Uncut dialect S.toList) : Sql.Spells dialect (escape S) S := by
  have kept : dialect.backslashEscapes = true → Sql.BackslashesKept S.toList := by
    intro escapes
    rw [standard] at escapes
    contradiction
  -- The escaped text is the one with its quotes doubled.
  intro read
  rw [toList_escape]
  exact Sql.feed_doubled kept uncut read

/-- A clause that denotes a condition selects the rows that meet it; the empty text denotes none. -/
theorem matching_of_clause {type : DBType} {whereText : String} {condition : ρ → Bool}
    (denotes : Sql.whereClause type.dialect schema.columns whereText = some condition)
    (t : schema.Table) : matching type t whereText = some (t.select condition) := by
  -- The empty text is no clause: the ORM leaves `where` out for it.
  have nonempty : whereText ≠ "" := by
    rintro rfl
    exact absurd denotes (by simp [Sql.whereClause, Sql.lex, Sql.feed, Sql.flush, Sql.parseCondition,
      Sql.parseEither, Sql.parseBoth, Sql.parseAtom])
  rw [matching, if_neg nonempty, denotes, Option.map_some]

/-- The first record of the first page is the first row that meets the condition. -/
theorem head_getRecords {type : DBType} {whereText : String} {condition : ρ → Bool}
    (denotes : Sql.whereClause type.dialect schema.columns whereText = some condition)
    (t : schema.Table) (howMany : Nat) :
    (getRecords type t 0 (howMany + 1) whereText).bind List.head? = t.rows.find? condition := by
  have rows := matching_of_clause denotes t
  -- An empty page is a failure, and so is the head of an empty list.
  cases selected : t.rows.filter condition with
  | nil =>
    have absent : t.rows.find? condition = none := by
      simpa [List.filter_eq_nil_iff] using selected
    simp [getRecords, rows, KeyedTable.select, selected, absent]
  | cons first rest =>
    have found : t.rows.find? condition = some first := by
      rw [← List.head?_filter, selected, List.head?_cons]
    simp [getRecords, rows, KeyedTable.select, selected, found]

/-- The records a page holds are stored rows, each of them once. -/
theorem getRecords_subset {type : DBType} {t : schema.Table} {offset howMany : Nat}
    {whereText : String} {records : List ρ}
    (read : getRecords type t offset howMany whereText = some records) :
    records.Sublist t.rows := by
  simp only [getRecords, matching, Option.bind_eq_bind, Option.bind_eq_some_iff] at read
  obtain ⟨rows, matched, page⟩ := read
  -- A select keeps some of the rows, and a page is cut out of them.
  have within : rows.Sublist t.rows := by
    split at matched
    · cases matched
      exact List.Sublist.refl _
    · obtain ⟨condition, _, rfl⟩ := Option.map_eq_some_iff.mp matched
      exact List.filter_sublist
  split at page
  · contradiction
  · cases page
    exact ((List.take_sublist _ _).trans (List.drop_sublist _ _)).trans within

/-- Deleting by a clause that denotes a condition keeps the rows that fail it. -/
theorem deleteRecords_of_clause {type : DBType} {whereText : String} {condition : ρ → Bool}
    (denotes : Sql.whereClause type.dialect schema.columns whereText = some condition)
    (t : schema.Table) : deleteRecords type t whereText = (true, t.delete condition) := by
  rw [deleteRecords, denotes]

/-- Deleting several keys one after the other keeps the rows with the other keys. -/
theorem rows_foldl_deleteRecord (values : List String) (t : schema.Table) :
    (values.foldl (fun t value => (deleteRecord t value).2) t).rows =
      t.rows.filter fun row => schema.key row ∉ values := by
  -- Each deletion filters what the ones before it have left.
  induction values generalizing t with
  | nil => simp
  | cons value rest ih =>
    rw [List.foldl_cons, ih, deleteRecord, KeyedTable.delete, List.filter_filter]
    refine List.filter_congr fun row _ => ?_
    by_cases same : schema.key row = value <;> simp [same]

variable {σ : Type}

/-- Hand records to a visitor one by one until it declines. -/
def visitRecords (visit : σ → ρ → Bool × σ) (state : σ) : List ρ → Bool × σ
  | [] => (true, state)
  | record :: rest =>
    match visit state record with
    | (true, visited) => visitRecords visit visited rest
    | (false, visited) => (false, visited)

/-- The loop of `Iterate` from an offset on, for a bounded number of batches. -/
def iterateFrom (type : DBType) (t : schema.Table) (whereText : String) (visit : σ → ρ → Bool × σ) :
    Nat → Nat → σ → σ
  | 0, _, state => state
  | batches + 1, offset, state =>
    match getRecords type t offset 50 whereText with
    | none => state
    | some records =>
      match visitRecords visit state records with
      | (false, visited) => visited
      | (true, visited) =>
        if records.length < 50 then visited
        else iterateFrom type t whereText visit batches (offset + 50) visited

/-- `Iterate`: visit the matching records in batches of fifty. -/
def iterate (type : DBType) (t : schema.Table) (whereText : String) (visit : σ → ρ → Bool × σ)
    (state : σ) : σ :=
  iterateFrom type t whereText visit (t.rows.length + 1) 0 state

/-- A visitor that never declines sees every record. -/
theorem visitRecords_all (f : σ → ρ → σ) (state : σ) (records : List ρ) :
    visitRecords (fun state record => (true, f state record)) state records =
      (true, records.foldl f state) := by
  -- The visitor accepts each record, so the recursion never stops early.
  induction records generalizing state with
  | nil => rfl
  | cons record rest ih => exact ih (f state record)

/-- The batches from an offset on cover the rest of the matching rows. -/
theorem iterateFrom_all {type : DBType} {t : schema.Table} {whereText : String} {rows : List ρ}
    (matched : matching type t whereText = some rows) (f : σ → ρ → σ) (batches offset : Nat)
    (state : σ) (enough : rows.length ≤ offset + 50 * batches) :
    iterateFrom type t whereText (fun state record => (true, f state record)) batches offset state =
      (rows.drop offset).foldl f state := by
  -- One batch consumes fifty rows, so the bound on the remaining rows shrinks with it.
  induction batches generalizing offset state with
  | zero => rw [List.drop_eq_nil_of_le (by omega), iterateFrom, List.foldl_nil]
  | succ batches ih =>
    have page : getRecords type t offset 50 whereText =
        if ((rows.drop offset).take 50).isEmpty then none else some ((rows.drop offset).take 50) := by
      simp [getRecords, matched]
    rw [iterateFrom, page]
    by_cases last : rows.drop offset = []
    · simp [last]
    · have filled : ((rows.drop offset).take 50).isEmpty = false := by simpa using last
      simp only [filled, Bool.false_eq_true, if_false, visitRecords_all, List.length_take]
      split
      · rename_i short
        -- A short batch was the last one.
        rw [List.take_of_length_le (by omega)]
      · have more := ih (offset + 50) (((rows.drop offset).take 50).foldl f state) (by omega)
        rw [more, ← List.foldl_append, ← List.drop_drop, List.take_append_drop]

/-- Iterating with a visitor that never declines is one pass over the matching rows. -/
theorem iterate_all {type : DBType} {t : schema.Table} {rows : List ρ}
    {whereText : String} (matched : matching type t whereText = some rows)
    (within : rows.length ≤ t.rows.length) (f : σ → ρ → σ) (state : σ) :
    iterate type t whereText (fun state record => (true, f state record)) state =
      rows.foldl f state := by
  -- One batch more than there are rows is always enough.
  have pass := iterateFrom_all matched f (t.rows.length + 1) 0 state (by omega)
  simpa [iterate] using pass

/-- Writing a record under its own key always succeeds. -/
theorem updateRecord_key (t : schema.Table) (record : ρ) :
    updateRecord t (schema.key record) record = (true, t.replace record) := by
  simp [updateRecord]

/-- A record with a free key is appended when the database executes the insertion. -/
theorem createRecord_of_fresh {t : schema.Table} (record : ρ)
    (fresh : ∀ stored ∈ t.rows, schema.key stored ≠ schema.key record) :
    ∃ grown, createRecord true t record = (true, grown) ∧ grown.rows = t.rows ++ [record] := by
  obtain ⟨grown, inserted, rows⟩ := KeyedTable.insert_of_fresh fresh
  exact ⟨grown, by simp [createRecord, inserted], rows⟩

/-- An insertion appends the record under a free key, or it fails and changes nothing. -/
theorem createRecord_cases (executed : Bool) (t : schema.Table) (record : ρ) :
    ((createRecord executed t record).1 = true ∧
        (createRecord executed t record).2.rows = t.rows ++ [record] ∧
        ∀ stored ∈ t.rows, schema.key stored ≠ schema.key record) ∨
      createRecord executed t record = (false, t) := by
  unfold createRecord
  cases outcome : if executed then t.insert record else none with
  | none => exact Or.inr rfl
  | some grown =>
    -- Only an executed insertion can have grown the table.
    have inserted : t.insert record = some grown := by
      cases executed <;> simp_all
    obtain ⟨rows, free⟩ := KeyedTable.insert_eq_some inserted
    exact Or.inl ⟨rfl, rows, free⟩

/-- Updating a stored record under its key succeeds, and only that key is found changed. -/
theorem updateRecord_of_lookup {t : schema.Table} {value : String} {before : ρ}
    (found : t.lookup value = some before) (record : ρ) (key : schema.key record = value) :
    (updateRecord t value record).1 = true ∧ ∀ other,
      (updateRecord t value record).2.lookup other =
        if other = value then some record else t.lookup other := by
  -- A stored key is one of the keys that are replaced.
  subst key
  rw [updateRecord_key]
  obtain ⟨stored, named⟩ := KeyedTable.lookup_eq_some.mp found
  exact ⟨rfl, KeyedTable.lookup_replace (List.mem_map.mpr ⟨before, stored, named⟩)⟩

/-- Creating a record under a free key succeeds, and only that key is found changed. -/
theorem createRecord_of_lookup (t : schema.Table) (record : ρ)
    (free : t.lookup (schema.key record) = none) :
    (createRecord true t record).1 = true ∧ ∀ other,
      (createRecord true t record).2.lookup other =
        if other = schema.key record then some record else t.lookup other := by
  obtain ⟨grown, created, rows⟩ := createRecord_of_fresh record (KeyedTable.lookup_eq_none.mp free)
  rw [created]
  exact ⟨rfl, KeyedTable.lookup_append rows⟩

end Orm

end Fms
