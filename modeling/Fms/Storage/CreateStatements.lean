import Mathlib.Data.List.Forall2
import Fms.Relation.Brackets
import Fms.Sql.Ddl
import Fms.Storage.Creation

/-! The statements that create a table, against the grammar of such statements. -/

namespace Fms

namespace Orm

open Brackets

/-- The type that the column of a field is to have; a width is not negative. -/
def NamedField.columnType (type : DBType) (field : NamedField) : Option Sql.ColumnType :=
  if field.type = .varchar ∧ field.size ≠ 0 then
    if 0 < field.size then some (.sized "varchar" field.size.toNat) else none
  else some (.plain (Sql.lower (fieldTypeToChar type field.type 0)))

/-- A column is the one of a field. -/
def Defines (type : DBType) (field : NamedField) (column : Sql.ColumnDefinition) : Prop :=
  column.name = Sql.lower field.name.text ∧ field.columnType type = some column.type ∧
    column.primaryKey = field.index

/-- The columns of an index, with whether they are ascending. -/
def Index.columns (index : Index) : List (String × Bool) :=
  index.entries.map fun entry => (Sql.lower entry.fieldName, entry.type = .asc)

/-- The indexes are over the fields. -/
def IndexesOver (fields : List NamedField) (indexes : List Index) : Prop :=
  ∀ index ∈ indexes, ∀ entry ∈ index.entries, IsField fields entry.fieldName

/--
The statements create the table, with every field and every index once.

What is created is compared as a whole, so that the order of the fields and of the indexes is kept. A product has
reserved words, which are no names.
-/
structure Creates (reserved : String → Prop) (type : DBType) (tableName : Identifier) (fields : List NamedField)
    (indexes : List Index) (statements : List Sql.CreateStatement) : Prop where
  tables : ∀ statement ∈ statements, statement.tableName = Sql.lower tableName.text
  names : ∀ statement ∈ statements, ∀ name ∈ statement.names, ¬ reserved name
  columns : List.Forall₂ (Defines type) fields (statements.flatMap Sql.CreateStatement.columns)
  columnsOnce : ((statements.flatMap Sql.CreateStatement.columns).map Sql.ColumnDefinition.name).Nodup
  indexes : (statements.flatMap Sql.CreateStatement.indexes).map (fun index => (index.name, index.columns)) =
    indexes.map fun index => (Sql.lower index.name.text, index.columns)
  indexesOnce : ((statements.flatMap Sql.CreateStatement.indexes).map Sql.IndexDefinition.name).Nodup

/-- The texts are balanced, and they are statements that create the table. -/
def CreatesTable (reserved : String → Prop) (type : DBType) (tableName : Identifier) (fields : List NamedField)
    (indexes : List Index) : Prop :=
  (∀ text ∈ (newDB type tableName fields indexes).createStatements, Balanced paren text.toList) ∧
    ∃ statements : List Sql.CreateStatement,
      List.Forall₂ (Sql.CreateStatement.SpelledBy type.dialect) statements
        (newDB type tableName fields indexes).createStatements ∧
      Creates reserved type tableName fields indexes statements

/-- No name is a reserved word, and no two fields and no two indexes have one name but for its case. -/
structure NamesFit (reserved : String → Prop) (tableName : Identifier) (fields : List NamedField)
    (indexes : List Index) : Prop where
  table : ¬ reserved (Sql.lower tableName.text)
  field : ∀ field ∈ fields, ¬ reserved (Sql.lower field.name.text)
  index : ∀ index ∈ indexes, ¬ reserved (Sql.lower index.name.text)
  fieldsOnce : (fields.map fun field => Sql.lower field.name.text).Nodup
  indexesOnce : (indexes.map fun index => Sql.lower index.name.text).Nodup

/-- The characters of a column's definition. -/
def columnChars (type : DBType) (i : NamedField) : List Char :=
  (toLower i.name.text).toList ++ ' ' :: (fieldTypeToChar type i.type i.size).toList ++
    (if i.index then " unique primary key" else "").toList

/-- The characters of an entry of an index. -/
def entryChars (k : IndexEntry) : List Char :=
  (toLower k.fieldName).toList ++ (if k.type = .asc then " ASC" else " DESC").toList

/-- Behind the first field, every further one is joined with a comma. -/
theorem toList_createFields (fields : List NamedField) (db : DB) (place : Nat) :
    (addFields db false place fields).createFields.toList =
      db.createFields.toList ++ fields.flatMap fun i => ", ".toList ++ columnChars db.type i := by
  -- By the rounds of the loop, with what has been written so far.
  induction fields generalizing db place with
  | nil => simp [addFields]
  | cons i rest ih =>
    rw [addFields, ih]
    simp [columnChars]

/-- The column definitions are those of the fields, with commas between them. -/
theorem toList_createFields_first (i : NamedField) (rest : List NamedField) (db : DB) (place : Nat)
    (empty : db.createFields = "") :
    (addFields db true place (i :: rest)).createFields.toList =
      columnChars db.type i ++ rest.flatMap fun i => ", ".toList ++ columnChars db.type i := by
  -- The first round writes no comma.
  rw [addFields, toList_createFields]
  simp [columnChars, empty]

/-- Behind the first entry, every further one is joined with the separator. -/
theorem toList_addEntries (separator line : String) (entries : List IndexEntry) :
    (addEntries separator line false entries).toList =
      line.toList ++ entries.flatMap fun k => separator.toList ++ entryChars k := by
  -- By the rounds of the loop, as for the fields.
  induction entries generalizing line with
  | nil => simp [addEntries]
  | cons k rest ih =>
    rw [addEntries, ih]
    simp [entryChars]

/-- The entries of an index are spelled with separators between them. -/
theorem toList_addEntries_first (separator line : String) (k : IndexEntry) (rest : List IndexEntry) :
    (addEntries separator line true (k :: rest)).toList =
      line.toList ++ (entryChars k ++ rest.flatMap fun k => separator.toList ++ entryChars k) := by
  rw [addEntries, toList_addEntries]
  simp [entryChars]

/-- What the constructor leaves for a table without indexes. -/
theorem newDB_createFields (type : DBType) (tableName : Identifier) (fields : List NamedField)
    (indexes : List Index) :
    (newDB type tableName fields indexes).createFields =
      (addFields { tableName := tableName.text, type := type } true 0 fields).createFields := by
  unfold newDB
  cases indexes <;> cases type <;> rfl

/-- A word has no parentheses. -/
theorem balanced_word {text : String} (word : Sql.isWord text = true) : Balanced paren text.toList := by
  -- A word is made of letters, digits and underscores.
  refine balanced_of_other fun c member => ?_
  have continues : Sql.continuesWord c = true := by
    unfold Sql.isWord at word
    cases chars : text.toList with
    | nil => simp [chars] at member
    | cons first rest =>
      simp only [chars, Bool.and_eq_true, List.all_eq_true] at word
      rw [chars] at member
      rcases List.mem_cons.mp member with rfl | later
      · simp [Sql.continuesWord, word.1]
      · exact word.2 c later
  -- Neither parenthesis goes on with a word.
  have opening : c ≠ '(' := by
    rintro rfl
    exact absurd continues (by decide)
  have closing : c ≠ ')' := by
    rintro rfl
    exact absurd continues (by decide)
  simp [paren, opening, closing]

/-- A number has no parentheses. -/
theorem balanced_int (n : Int) : Balanced paren (toString n).toList := by
  -- The digits are no parentheses, and neither is a sign.
  have digits : ∀ n : Nat, Balanced paren (toString n).toList := by
    intro n
    refine balanced_of_other fun c member => ?_
    rw [Nat.toString_eq_repr, Nat.toList_repr] at member
    have digit := Nat.isDigit_of_mem_toDigits (by decide) (by decide) member
    have opening : c ≠ '(' := by
      rintro rfl
      exact absurd digit (by decide)
    have closing : c ≠ ')' := by
      rintro rfl
      exact absurd digit (by decide)
    simp [paren, opening, closing]
  cases n with
  | ofNat n => exact digits n
  | negSucc n =>
    have text : (toString (Int.negSucc n)).toList = ['-'] ++ (toString (n + 1)).toList := by
      have sign : toString (Int.negSucc n) = "-" ++ toString (n + 1) := rfl
      rw [sign, String.toList_append]
      rfl
    rw [text]
    exact Balanced.append (by decide) (digits (n + 1))

/-- A type without a width is one word. -/
theorem fieldType_plain (type : DBType) {t : FieldType} {size : Int} (plain : ¬(t = .varchar ∧ size ≠ 0)) :
    fieldTypeToChar type t size = fieldTypeToChar type t 0 ∧ Sql.isWord (fieldTypeToChar type t 0) = true := by
  refine ⟨?_, by cases t <;> cases type <;> decide⟩
  -- Only a text of variable length looks at its size.
  cases t with
  | varchar =>
    obtain rfl : size = 0 := by simpa using plain
    rfl
  | _ => rfl

/-- The type of a text with a width. -/
theorem toList_fieldType_sized (type : DBType) {size : Int} (sized : size ≠ 0) :
    (fieldTypeToChar type .varchar size).toList =
      "VARCHAR".toList ++ '(' :: ((toString size).toList ++ [')']) := by
  simp [fieldTypeToChar, sized]

/-- The type of a column is balanced. -/
theorem balanced_fieldType (type : DBType) (t : FieldType) (size : Int) :
    Balanced paren (fieldTypeToChar type t size).toList := by
  by_cases sized : t = .varchar ∧ size ≠ 0
  · -- A width stands in parentheses of its own.
    rw [sized.1, toList_fieldType_sized type sized.2]
    exact Balanced.append (by decide)
      (Enclosed.balanced ⟨'(', _, ')', rfl, by decide, by decide, balanced_int size⟩)
  · -- Every other type is one word.
    obtain ⟨same, word⟩ := fieldType_plain type sized
    rw [same]
    exact balanced_word word

/-- The name of a field is a word in lower case. -/
theorem isWord_toLower (name : FieldName) : Sql.isWord (toLower name.text) = true := Sql.isWord_lower name.isWord

/-- A column's definition is balanced. -/
theorem balanced_columnChars (type : DBType) (i : NamedField) : Balanced paren (columnChars type i) := by
  -- The parts are balanced on their own, and joined with a space.
  have key : Balanced paren (if i.index then " unique primary key" else "").toList := by
    cases i.index <;> decide
  have space : Balanced paren [' '] := by decide
  have chars : columnChars type i = (toLower i.name.text).toList ++
      ([' '] ++ (fieldTypeToChar type i.type i.size).toList) ++
      (if i.index then " unique primary key" else "").toList := by simp [columnChars]
  rw [chars]
  exact ((balanced_word (isWord_toLower i.name)).append
    (space.append (balanced_fieldType type i.type i.size))).append key

/-- Parts of a balanced text with balanced separators are balanced. -/
theorem balanced_separated {α : Type} {chars : α → List Char} {separator : List Char} {parts : List α}
    (between : Balanced paren separator) (all : ∀ part ∈ parts, Balanced paren (chars part)) :
    Balanced paren (parts.flatMap fun part => separator ++ chars part) := by
  -- Each part comes with a separator in front of it.
  rw [List.flatMap_def]
  refine balanced_flatten fun text member => ?_
  obtain ⟨part, place, rfl⟩ := List.mem_map.mp member
  exact between.append (all part place)

/-- The column definitions are balanced. -/
theorem balanced_createFields (fields : List NamedField) (db : DB) (first : Bool) (place : Nat)
    (balanced : Balanced paren db.createFields.toList) :
    Balanced paren (addFields db first place fields).createFields.toList := by
  cases fields with
  | nil => exact balanced
  | cons i rest =>
    -- The rounds behind the first add a comma and a definition each.
    rw [addFields, toList_createFields]
    refine Balanced.append ?_ (balanced_separated (by decide) fun part _ => balanced_columnChars _ part)
    have definition := balanced_columnChars db.type i
    have comma : Balanced paren ", ".toList := by decide
    cases first
    · simpa [columnChars] using (balanced.append comma).append definition
    · simpa [columnChars] using balanced.append definition

/-- The entries of an index over the fields are balanced. -/
theorem balanced_entryChars {fields : List NamedField} {k : IndexEntry} (named : IsField fields k.fieldName) :
    Balanced paren (entryChars k) := by
  -- The entry names a field, and an order behind it.
  obtain ⟨field, -, same⟩ := named
  have order : Balanced paren (if k.type = .asc then " ASC" else " DESC").toList := by
    cases k.type <;> decide
  rw [entryChars, ← same]
  exact (balanced_word (isWord_toLower field.name)).append order

/-- Entries with separators keep a text balanced or not. -/
theorem balanced_addEntries {fields : List NamedField} {separator : String}
    (between : Balanced paren separator.toList) {entries : List IndexEntry}
    (named : ∀ entry ∈ entries, IsField fields entry.fieldName) :
    ∃ added, Balanced paren added ∧
      ∀ line first, first = true → (addEntries separator line first entries).toList = line.toList ++ added := by
  -- The first entry has no separator in front of it.
  cases entries with
  | nil =>
    refine ⟨[], balanced_nil, ?_⟩
    rintro line first rfl
    simp [addEntries]
  | cons k rest =>
    refine ⟨_, ?_, fun line first opens => by rw [opens, toList_addEntries_first]⟩
    exact (balanced_entryChars (named k List.mem_cons_self)).append (balanced_separated between fun entry member =>
      balanced_entryChars (named entry (List.mem_cons_of_mem k member)))

/-- The statement of an index is balanced. -/
theorem balanced_indexStatement {fields : List NamedField} {table : Identifier} {index : Index}
    (named : ∀ entry ∈ index.entries, IsField fields entry.fieldName) :
    Balanced paren (indexStatement table.text index).toList := by
  obtain ⟨added, balanced, text⟩ := @balanced_addEntries fields " , " (by decide) index.entries named
  -- The entries stand in the one pair of parentheses.
  have chars : (indexStatement table.text index).toList = "CREATE INDEX IF NOT EXISTS ".toList ++
      index.name.text.toList ++ " ON ".toList ++ table.text.toList ++ " ".toList ++
      '(' :: ((added ++ [' ']) ++ [')']) := by
    rw [indexStatement, String.toList_append, text _ _ rfl]
    simp
  have inside : Balanced paren (added ++ [' ']) := balanced.append (by decide)
  rw [chars]
  refine Balanced.append ?_ (Enclosed.balanced ⟨'(', _, ')', rfl, by decide, by decide, inside⟩)
  exact Balanced.append (Balanced.append (Balanced.append (Balanced.append (by decide)
    (balanced_word index.name.isWord)) (by decide)) (balanced_word table.isWord)) (by decide)

/-- The index definitions of MySQL are balanced. -/
theorem balanced_addIndexes {fields : List NamedField} {indexes : List Index} (named : IndexesOver fields indexes)
    {line : String} (balanced : Balanced paren line.toList) (first : Bool) :
    Balanced paren (addIndexes line first indexes).toList := by
  -- By the rounds of the loop; each adds a definition with parentheses of its own.
  induction indexes generalizing line first with
  | nil => exact balanced
  | cons index rest ih =>
    rw [addIndexes]
    obtain ⟨added, inside, text⟩ :=
      @balanced_addEntries fields " ," (by decide) index.entries (named index List.mem_cons_self)
    refine ih (fun other member => named other (List.mem_cons_of_mem index member)) ?_ false
    have chars : ∀ line : String, (addEntries " ," (line ++ " INDEX " ++ index.name.text ++ " ( ") true
        index.entries ++ " ) ").toList = line.toList ++ (" INDEX ".toList ++ index.name.text.toList ++ [' '] ++
          '(' :: (([' '] ++ added ++ [' ']) ++ [')']) ++ [' ']) := by
      intro line
      rw [String.toList_append, text _ _ rfl]
      simp
    have definition : Balanced paren (" INDEX ".toList ++ index.name.text.toList ++ [' '] ++
        '(' :: (([' '] ++ added ++ [' ']) ++ [')']) ++ [' ']) := by
      have enclosed : Enclosed paren ('(' :: (([' '] ++ added ++ [' ']) ++ [')'])) :=
        ⟨'(', _, ')', rfl, by decide, by decide,
          Balanced.append (Balanced.append (by decide) inside) (by decide)⟩
      exact Balanced.append (Balanced.append (Balanced.append (Balanced.append (by decide)
        (balanced_word index.name.isWord)) (by decide)) enclosed.balanced) (by decide)
    rw [chars]
    refine Balanced.append ?_ definition
    cases first
    · have comma : Balanced paren ", ".toList := by decide
      simpa using balanced.append comma
    · simpa using balanced

/-- The tokens of a column's type, as they are spelled. -/
def typeTokens (type : DBType) (i : NamedField) : List Sql.Token :=
  if i.type = .varchar ∧ i.size ≠ 0 then
    [.word "VARCHAR", .symbol "(", .number i.size.toNat, .symbol ")"]
  else [.word (fieldTypeToChar type i.type 0)]

/-- The tokens of a column's definition, as they are spelled. -/
def columnTokens (type : DBType) (i : NamedField) : List Sql.Token :=
  .word (toLower i.name.text) ::
    (typeTokens type i ++ if i.index then Sql.words ["unique", "primary", "key"] else [])

/-- The tokens of an entry of an index, as they are spelled. -/
def entryTokens (k : IndexEntry) : List Sql.Token :=
  [.word (toLower k.fieldName), .word (if k.type = .asc then "ASC" else "DESC")]

/-- The width of a field, where it has one, is not negative. -/
def HasWidth (i : NamedField) : Prop := i.type = .varchar → 0 ≤ i.size

/-- The column of a field. -/
def NamedField.definition (type : DBType) (i : NamedField) : Sql.ColumnDefinition :=
  { name := Sql.lower i.name.text, type := (i.columnType type).getD (.plain ""), primaryKey := i.index }

/-- A field has a column exactly if its width is not negative. -/
theorem isSome_columnType {type : DBType} {i : NamedField} : (i.columnType type).isSome = true ↔ HasWidth i := by
  -- Only a text of variable length can have a width.
  unfold NamedField.columnType HasWidth
  by_cases sized : i.type = .varchar ∧ i.size ≠ 0
  · rw [if_pos sized]
    by_cases positive : 0 < i.size
    · simp [positive, Int.le_of_lt positive]
    · -- A width that is neither zero nor positive is negative.
      have negative : ¬ 0 ≤ i.size := by
        have nonzero := sized.2
        omega
      simp [positive, sized.1, negative]
  · rw [if_neg sized]
    refine ⟨fun _ text => ?_, fun _ => rfl⟩
    rw [not_and, not_not] at sized
    exact Int.le_of_eq (sized text).symm

/-- The column of a field with a width defines it. -/
theorem defines_definition {type : DBType} {i : NamedField} (width : HasWidth i) :
    Defines type i (i.definition type) := by
  obtain ⟨column, same⟩ := Option.isSome_iff_exists.mp ((@isSome_columnType type i).mpr width)
  exact ⟨rfl, by simp [NamedField.definition, same], rfl⟩

/-- The tokens of a field's definition are those of its column, but for their case. -/
theorem lowered_columnTokens {type : DBType} {i : NamedField} (width : HasWidth i) :
    (columnTokens type i).map Sql.Token.lowered = (i.definition type).tokens := by
  -- The name, the type and the key are compared one after the other.
  have name : Sql.Token.lowered (.word (toLower i.name.text)) = .word (Sql.lower i.name.text) := by
    exact congrArg Sql.Token.word (Sql.lower_lower i.name.text)
  have key : (if i.index then Sql.words ["unique", "primary", "key"] else []).map Sql.Token.lowered =
      if i.index then Sql.words ["unique", "primary", "key"] else [] := by
    cases i.index <;> decide
  have own : (typeTokens type i).map Sql.Token.lowered = (i.definition type).type.tokens := by
    unfold typeTokens NamedField.definition NamedField.columnType
    by_cases sized : i.type = .varchar ∧ i.size ≠ 0
    · have positive : 0 < i.size := by
        have least := width sized.1
        have nonzero := sized.2
        omega
      have word : Sql.lower "VARCHAR" = "varchar" := by decide
      simp [sized, positive, Sql.Token.lowered, Sql.ColumnType.tokens, word]
    · simp [sized, Sql.Token.lowered, Sql.ColumnType.tokens]
  rw [columnTokens, List.map_cons, List.map_append, name, own, key]
  rfl

section Reading

variable {dialect : Sql.Dialect} {tail : List Char}

/-- A space ends a word. -/
theorem endsWord_space (rest : List Char) : Sql.EndsWord (' ' :: rest) := by
  intro c first
  obtain rfl : ' ' = c := Option.some.inj first
  rfl

/-- A text that begins with a space ends a word. -/
theorem endsWord_text {text : String} (begins : text.toList.head? = some ' ') (rest : List Char) :
    Sql.EndsWord (text.toList ++ rest) := by
  -- The space at its beginning is the first character.
  intro c first
  rw [List.head?_append, begins, Option.some_or] at first
  obtain rfl : ' ' = c := Option.some.inj first
  rfl

/-- A space between two tokens is not read. -/
theorem finish_space (rest : List Char) :
    Sql.finish dialect .gap (' ' :: rest) = Sql.finish dialect .gap rest := Sql.finish_silent rfl rest

/-- What a field's type is spelled with is read as its tokens. -/
theorem finish_fieldType (type : DBType) {i : NamedField} (width : HasWidth i) (ends : Sql.EndsWord tail) :
    Sql.finish dialect .gap ((fieldTypeToChar type i.type i.size).toList ++ tail) =
      (Sql.finish dialect .gap tail).map (typeTokens type i ++ ·) := by
  -- The lexer reads a type with a width as four tokens, and any other one as a word.
  unfold typeTokens
  by_cases sized : i.type = .varchar ∧ i.size ≠ 0
  · -- The width is a natural number between parentheses.
    obtain ⟨n, size⟩ := Int.eq_ofNat_of_zero_le (width sized.1)
    have digits : (toString i.size).toList = (toString n).toList := by rw [size]; rfl
    have opens : Sql.EndsWord ('(' :: ((toString n).toList ++ (')' :: tail))) := by
      intro c first
      obtain rfl : '(' = c := Option.some.inj first
      rfl
    have closes : ∀ c, (')' :: tail).head? = some c → Sql.continuesWord c = false := by
      intro c first
      obtain rfl : ')' = c := Option.some.inj first
      rfl
    have opening : Sql.step dialect .gap '(' = some ([.symbol "("], .gap) := rfl
    have closing : Sql.step dialect .gap ')' = some ([.symbol ")"], .gap) := rfl
    have word : Sql.isWord "VARCHAR" = true := by decide
    have value : i.size.toNat = n := by rw [size]; rfl
    rw [if_pos sized, sized.1, toList_fieldType_sized type sized.2, digits, List.append_assoc, List.cons_append,
      List.append_assoc, List.singleton_append, Sql.finish_word_ends word opens, Sql.finish_cons opening,
      Sql.finish_number n closes, Sql.finish_cons closing, value]
    cases Sql.finish dialect .gap tail <;> simp
  · obtain ⟨same, word⟩ := fieldType_plain type sized
    rw [if_neg sized, same, Sql.finish_word_ends word ends]
    rfl

/-- A column's definition is read as its tokens. -/
theorem finish_column (type : DBType) {i : NamedField} (width : HasWidth i) (ends : Sql.EndsWord tail) :
    Sql.finish dialect .gap (columnChars type i ++ tail) =
      (Sql.finish dialect .gap tail).map (columnTokens type i ++ ·) := by
  -- The name ends at a space, the type at the key or at what follows the column.
  have key : Sql.finish dialect .gap ((if i.index then " unique primary key" else "").toList ++ tail) =
      (Sql.finish dialect .gap tail).map
        ((if i.index then Sql.words ["unique", "primary", "key"] else []) ++ ·) := by
    cases i.index with
    | false =>
      simp only [Bool.false_eq_true, if_false, String.toList_empty, List.nil_append]
      cases Sql.finish dialect .gap tail <;> rfl
    | true =>
      have front : Sql.feed dialect .gap " unique primary ".toList =
          some (Sql.words ["unique", "primary"], .gap) := rfl
      have chars : " unique primary key".toList ++ tail = " unique primary ".toList ++ ("key".toList ++ tail) := by
        simp
      rw [if_pos rfl, if_pos rfl, chars, Sql.finish_append front, Sql.finish_word_ends (by decide) ends]
      cases Sql.finish dialect .gap tail <;> simp [Sql.words]
  have behind : Sql.EndsWord ((if i.index then " unique primary key" else "").toList ++ tail) := by
    cases i.index with
    | false => simpa using ends
    | true => exact endsWord_space _
  have chars : columnChars type i ++ tail = (toLower i.name.text).toList ++
      ' ' :: ((fieldTypeToChar type i.type i.size).toList ++
        ((if i.index then " unique primary key" else "").toList ++ tail)) := by simp [columnChars]
  rw [chars, Sql.finish_word_ends (isWord_toLower i.name) (endsWord_space _), finish_space,
    finish_fieldType type width behind, key, columnTokens]
  cases Sql.finish dialect .gap tail <;> simp

/-- An entry of an index is read as its tokens. -/
theorem finish_entry {fields : List NamedField} {k : IndexEntry} (named : IsField fields k.fieldName)
    (ends : Sql.EndsWord tail) :
    Sql.finish dialect .gap (entryChars k ++ tail) =
      (Sql.finish dialect .gap tail).map (entryTokens k ++ ·) := by
  -- The name ends at a space, the order at what follows the entry.
  obtain ⟨field, -, same⟩ := named
  have word : Sql.isWord (toLower k.fieldName) = true := same ▸ isWord_toLower field.name
  have order : Sql.isWord (if k.type = .asc then "ASC" else "DESC") = true := by cases k.type <;> decide
  have chars : entryChars k ++ tail = (toLower k.fieldName).toList ++
      ' ' :: ((if k.type = .asc then "ASC" else "DESC").toList ++ tail) := by
    cases type : k.type <;> simp [entryChars, type]
  rw [chars, Sql.finish_word_ends word (endsWord_space _), finish_space, Sql.finish_word_ends order ends,
    entryTokens]
  cases Sql.finish dialect .gap tail <;> simp

/-- The text that creates the table is read as a statement with its columns. -/
theorem lex_createTable {type : DBType} {tableName : Identifier} {i : NamedField} {rest : List NamedField}
    (width : ∀ field ∈ i :: rest, HasWidth field) {createFields : String}
    (spelled : createFields.toList =
      columnChars type i ++ rest.flatMap fun i => ", ".toList ++ columnChars type i) :
    Sql.lex dialect ("create table if not exists " ++ tableName.text ++ " ( " ++ createFields ++ " )") =
      some (Sql.words ["create", "table", "if", "not", "exists"] ++ .word tableName.text ::
        Sql.parenthesised (Sql.commaSeparated ((i :: rest).map (columnTokens type)))) := by
  -- The fixed parts of the text are read by evaluation, the others by their own lemmas.
  have front : Sql.feed dialect .gap "create table if not exists ".toList =
      some (Sql.words ["create", "table", "if", "not", "exists"], .gap) := rfl
  have opens : Sql.feed dialect .gap " ( ".toList = some ([.symbol "("], .gap) := rfl
  have closes : Sql.finish dialect .gap " )".toList = some [.symbol ")"] := rfl
  have columns := @Sql.finish_separated dialect NamedField (columnChars type) (columnTokens type) ", ".toList rfl
    (fun tail c first => by obtain rfl : ',' = c := Option.some.inj first; rfl) i rest
    (fun field member tail ends => finish_column type (width field member) ends) " )".toList (endsWord_space [')'])
  rw [Sql.lex_eq_finish]
  simp only [String.toList_append, List.append_assoc]
  rw [Sql.finish_append front, Sql.finish_word_ends tableName.isWord (endsWord_text (by decide) _),
    Sql.finish_append opens, spelled, columns, closes]
  simp [Sql.parenthesised]

/-- The text that creates an index is read as a statement with its entries. -/
theorem lex_indexStatement {fields : List NamedField} {tableName : Identifier} {index : Index} {k : IndexEntry}
    {rest : List IndexEntry} (entries : index.entries = k :: rest)
    (named : ∀ entry ∈ index.entries, IsField fields entry.fieldName) :
    Sql.lex dialect (indexStatement tableName.text index) =
      some (Sql.words ["CREATE", "INDEX", "IF", "NOT", "EXISTS"] ++ .word index.name.text :: .word "ON" ::
        .word tableName.text :: Sql.parenthesised (Sql.commaSeparated (index.entries.map entryTokens))) := by
  -- As for the table, with the two names between the fixed parts.
  have front : Sql.feed dialect .gap "CREATE INDEX IF NOT EXISTS ".toList =
      some (Sql.words ["CREATE", "INDEX", "IF", "NOT", "EXISTS"], .gap) := rfl
  have on : Sql.feed dialect .gap " ON ".toList = some ([.word "ON"], .gap) := rfl
  have opens : Sql.feed dialect .gap " (".toList = some ([.symbol "("], .gap) := rfl
  have closes : Sql.finish dialect .gap " )".toList = some [.symbol ")"] := rfl
  rw [entries] at named
  have columns := @Sql.finish_separated dialect IndexEntry entryChars entryTokens " , ".toList rfl
    (fun tail => endsWord_space _) k rest
    (fun entry member tail ends => finish_entry (named entry member) ends) " )".toList (endsWord_space [')'])
  rw [Sql.lex_eq_finish, indexStatement, entries, String.toList_append, toList_addEntries_first]
  simp only [String.toList_append, List.append_assoc] at columns ⊢
  rw [Sql.finish_append front, Sql.finish_word_ends index.name.isWord (endsWord_text (by decide) _),
    Sql.finish_append on, Sql.finish_word_ends tableName.isWord (endsWord_text (by decide) _),
    Sql.finish_append opens, columns, closes]
  simp [Sql.parenthesised]

end Reading

/-- The statement that creates the table. -/
def tableStatement (tableName createFields : String) : String :=
  "create table if not exists " ++ tableName ++ " ( " ++ createFields ++ " )"

/-- The definitions stand in the one pair of parentheses. -/
theorem toList_tableStatement (tableName createFields : String) :
    (tableStatement tableName createFields).toList = "create table if not exists ".toList ++
      tableName.toList ++ [' '] ++ '(' :: (([' '] ++ createFields.toList ++ [' ']) ++ [')']) := by
  -- The two parentheses are taken out of the fixed parts.
  have opens : " ( ".toList = [' ', '(', ' '] := by decide
  have closes : " )".toList = [' ', ')'] := by decide
  unfold tableStatement
  rw [String.toList_append, String.toList_append, String.toList_append, String.toList_append, opens, closes]
  generalize "create table if not exists ".toList = front
  simp only [List.append_assoc, List.cons_append, List.nil_append]

/-- What the constructor keeps of its arguments. -/
theorem newDB_members (type : DBType) (tableName : Identifier) (fields : List NamedField) (indexes : List Index) :
    (newDB type tableName fields indexes).tableName = tableName.text ∧
      (newDB type tableName fields indexes).type = type ∧
      (newDB type tableName fields indexes).indexCreation =
        if indexes = [] then [] else if type = .mysql then [addIndexes "" true indexes]
          else indexes.map (indexStatement tableName.text) := by
  obtain ⟨name, product, none⟩ := addFields_frame fields { tableName := tableName.text, type := type } true 0
  unfold newDB
  generalize addFields { tableName := tableName.text, type := type } true 0 fields = db at name product none
  cases indexes with
  | nil => exact ⟨name, product, none⟩
  | cons index rest =>
    -- The statements of the indexes name the table.
    have named : indexStatement db.tableName = indexStatement tableName.text := by rw [name]
    cases type with
    | mysql => exact ⟨name, product, rfl⟩
    | sqlite => exact ⟨name, product, congrArg (List.map · (index :: rest)) named⟩
    | pgsql => exact ⟨name, product, congrArg (List.map · (index :: rest)) named⟩

/-- Where indexes are created by statements of their own, these follow that of the table. -/
theorem createStatements_eq {type : DBType} {indexes : List Index} (apart : ¬(type = .mysql ∧ indexes ≠ []))
    (tableName : Identifier) (fields : List NamedField) :
    (newDB type tableName fields indexes).createStatements =
      tableStatement tableName.text (newDB type tableName fields indexes).createFields ::
        indexes.map (indexStatement tableName.text) := by
  -- There is one statement more than there are indexes, which the backend decides.
  obtain ⟨name, product, made⟩ := newDB_members type tableName fields indexes
  generalize newDB type tableName fields indexes = db at name product made ⊢
  obtain ⟨tableName', type', fieldNames, createFields, selectFields, updateFields, selectList, creation⟩ := db
  obtain rfl : tableName' = tableName.text := name
  obtain rfl : type' = type := product
  obtain rfl : creation = _ := made
  cases indexes with
  | nil => cases type' <;> rfl
  | cons index rest =>
    cases type' with
    | mysql => exact absurd ⟨rfl, by simp⟩ apart
    | _ => rfl

/-- Every product is sent a statement. -/
theorem createStatements_ne_nil (type : DBType) (tableName : Identifier) (fields : List NamedField)
    (indexes : List Index) : (newDB type tableName fields indexes).createStatements ≠ [] := by
  unfold DB.createStatements
  generalize newDB type tableName fields indexes = db
  -- The statement of the table is there, with or without those of the indexes.
  obtain ⟨_, type', _, _, _, _, _, creation⟩ := db
  cases type' <;> cases creation <;> simp

/-- On MySQL the indexes are put behind the table, with one more parenthesis. -/
theorem createStatements_mysql {indexes : List Index} (some : indexes ≠ []) (tableName : Identifier)
    (fields : List NamedField) :
    (newDB .mysql tableName fields indexes).createStatements =
      [tableStatement tableName.text (newDB .mysql tableName fields indexes).createFields ++ ", " ++
        addIndexes "" true indexes ++ " )"] := by
  obtain ⟨name, product, made⟩ := newDB_members .mysql tableName fields indexes
  generalize newDB .mysql tableName fields indexes = db at name product made ⊢
  obtain ⟨tableName', type', fieldNames, createFields, selectFields, updateFields, selectList, creation⟩ := db
  obtain rfl : tableName' = tableName.text := name
  obtain rfl : type' = .mysql := product
  obtain rfl : creation = [addIndexes "" true indexes] := by simpa [some] using made
  -- Closing the table and starting the indexes is written as one text.
  have joined : " ), " = " )" ++ ", " := by decide
  unfold DB.createStatements tableStatement
  rw [joined]
  simp only [String.append_assoc]

/-- The statement of a table is balanced. -/
theorem balanced_tableStatement (type : DBType) (tableName : Identifier) (fields : List NamedField)
    (indexes : List Index) :
    Balanced paren
      (tableStatement tableName.text (newDB type tableName fields indexes).createFields).toList := by
  -- The column definitions stand in the one pair of parentheses.
  rw [newDB_createFields]
  have none : Balanced paren "".toList := by decide
  have columns := balanced_createFields fields { tableName := tableName.text, type := type } true 0 none
  have space : Balanced paren [' '] := by decide
  have front : Balanced paren "create table if not exists ".toList := by decide
  rw [toList_tableStatement]
  have enclosed := @Enclosed.balanced _ paren _
    ⟨'(', _, ')', rfl, by decide, by decide, (space.append columns).append space⟩
  exact ((front.append (balanced_word tableName.isWord)).append space).append enclosed

/-- On MySQL a table with indexes is created by a statement that is not balanced. -/
theorem not_balanced_mysql {fields : List NamedField} {indexes : List Index} (some : indexes ≠ [])
    (within : IndexesOver fields indexes) (tableName : Identifier) :
    ∃ text ∈ (newDB .mysql tableName fields indexes).createStatements, ¬ Balanced paren text.toList := by
  rw [createStatements_mysql some]
  refine ⟨_, List.mem_singleton_self _, ?_⟩
  -- The table and the indexes are balanced, and a parenthesis is left.
  have table := balanced_tableStatement .mysql tableName fields indexes
  have comma : Balanced paren ", ".toList := by decide
  have none : Balanced paren "".toList := by decide
  have definitions := balanced_addIndexes within none true
  have space : Balanced paren [' '] := by decide
  have front := ((table.append comma).append definitions).append space
  have closes := @not_balanced_of_closing _ paren _ [] ')' front (by decide)
  simpa using closes

/-- Parentheses stay as they are in lower case. -/
theorem lowered_parenthesised (tokens : List Sql.Token) :
    (Sql.parenthesised tokens).map Sql.Token.lowered = Sql.parenthesised (tokens.map Sql.Token.lowered) := by
  simp [Sql.parenthesised, Sql.Token.lowered]

/-- Commas stay as they are in lower case. -/
theorem lowered_commaSeparated (parts : List (List Sql.Token)) :
    (Sql.commaSeparated parts).map Sql.Token.lowered =
      Sql.commaSeparated (parts.map (List.map Sql.Token.lowered)) := by
  -- A comma is a symbol, which has no case.
  cases parts with
  | nil => rfl
  | cons first rest => simp [Sql.commaSeparated, List.map_flatMap, List.flatMap_map, Sql.Token.lowered]

/-- The statement of the table spells its columns. -/
theorem spelledBy_table {type : DBType} {fields : List NamedField} (nonempty : fields ≠ [])
    (width : ∀ field ∈ fields, HasWidth field) (tableName : Identifier) (indexes : List Index) :
    Sql.CreateStatement.SpelledBy type.dialect
      (.table (Sql.lower tableName.text) (fields.map (NamedField.definition type)) [] (by simpa using nonempty))
      (tableStatement tableName.text (newDB type tableName fields indexes).createFields) := by
  -- The text is read as tokens, and these are the columns' but for their case.
  cases fields with
  | nil => contradiction
  | cons i rest =>
    have spelled := toList_createFields_first i rest { tableName := tableName.text, type := type } 0 rfl
    rw [← newDB_createFields type tableName (i :: rest) indexes] at spelled
    have tokens := @lex_createTable type.dialect type tableName i rest width _ spelled
    have lowered : ((i :: rest).map (columnTokens type)).map (List.map Sql.Token.lowered) =
        ((i :: rest).map (NamedField.definition type)).map Sql.ColumnDefinition.tokens := by
      rw [List.map_map, List.map_map]
      exact List.map_congr_left fun field member => lowered_columnTokens (width field member)
    unfold Sql.CreateStatement.SpelledBy tableStatement
    rw [tokens, Option.map_some]
    refine congrArg Option.some ?_
    rw [List.map_append, List.map_cons, lowered_parenthesised, lowered_commaSeparated, lowered,
      Sql.CreateStatement.tokens, List.map_nil, List.append_nil]
    exact congrArg (· ++ _) (by decide)

/-- The statement that creates an index with columns. -/
def Index.creation (tableName : Identifier) (index : Index) (columns : index.columns ≠ []) : Sql.CreateStatement :=
  .index ⟨Sql.lower index.name.text, index.columns, columns⟩ (Sql.lower tableName.text)

/-- The statement of an index spells its columns. -/
theorem spelledBy_index {dialect : Sql.Dialect} {fields : List NamedField} {index : Index}
    (columns : index.columns ≠ []) (entries : index.entries ≠ [])
    (named : ∀ entry ∈ index.entries, IsField fields entry.fieldName) (tableName : Identifier) :
    Sql.CreateStatement.SpelledBy dialect (index.creation tableName columns)
      (indexStatement tableName.text index) := by
  -- The text is read as tokens, and these are the entries' but for their case.
  obtain ⟨k, rest, split⟩ := List.exists_cons_of_ne_nil entries
  have tokens := @lex_indexStatement dialect fields tableName index k rest split named
  have lowered : (index.entries.map entryTokens).map (List.map Sql.Token.lowered) =
      index.columns.map fun column => [.word column.1, .word (if column.2 then "asc" else "desc")] := by
    rw [Index.columns, List.map_map, List.map_map]
    refine List.map_congr_left fun entry _ => ?_
    have name : Sql.lower (toLower entry.fieldName) = Sql.lower entry.fieldName :=
      Sql.lower_lower entry.fieldName
    have order : Sql.lower (if entry.type = .asc then "ASC" else "DESC") =
        if entry.type = .asc then "asc" else "desc" := by cases entry.type <;> decide
    simp [entryTokens, name, Sql.Token.lowered, order]
  unfold Sql.CreateStatement.SpelledBy
  rw [tokens, Option.map_some]
  refine congrArg Option.some ?_
  rw [List.map_append, List.map_cons, List.map_cons, List.map_cons, lowered_parenthesised, lowered_commaSeparated,
    lowered, Index.creation, Sql.CreateStatement.tokens]
  exact congrArg (· ++ _) (by decide)

/-- The columns of fields have the names of the fields. -/
theorem names_of_defines {type : DBType} {fields : List NamedField} {columns : List Sql.ColumnDefinition}
    (defines : List.Forall₂ (Defines type) fields columns) :
    columns.map Sql.ColumnDefinition.name = fields.map fun field => Sql.lower field.name.text := by
  -- Each column is the one of its field.
  induction defines with
  | nil => rfl
  | cons first _ ih => rw [List.map_cons, List.map_cons, ih, first.1]

/-- A column that a statement defines is one of its names. -/
theorem name_mem_of_column {statement : Sql.CreateStatement} {column : Sql.ColumnDefinition}
    (member : column ∈ statement.columns) : column.name ∈ statement.names := by
  cases statement with
  | table name columns indexes columns_ne =>
    exact List.mem_cons_of_mem _ (List.mem_append_left _ (List.mem_map_of_mem member))
  | index definition target => exact absurd member List.not_mem_nil

/-- An index that a statement defines is one of its names. -/
theorem name_mem_of_index {statement : Sql.CreateStatement} {definition : Sql.IndexDefinition}
    (member : definition ∈ statement.indexes) : definition.name ∈ statement.names := by
  cases statement with
  | table name columns indexes columns_ne =>
    refine List.mem_cons_of_mem _ (List.mem_append_right _ ?_)
    exact List.mem_flatMap.mpr ⟨definition, member, List.mem_cons_self⟩
  | index own target =>
    cases List.mem_singleton.mp member
    exact List.mem_cons_self

/-- The table of a statement is one of its names. -/
theorem tableName_mem (statement : Sql.CreateStatement) : statement.tableName ∈ statement.names := by
  cases statement with
  | table name columns indexes columns_ne => exact List.mem_cons_self
  | index definition target => exact List.mem_cons_of_mem _ List.mem_cons_self

/-- What is created well has fitting names. -/
theorem Creates.namesFit {reserved : String → Prop} {type : DBType} {tableName : Identifier}
    {fields : List NamedField} {indexes : List Index} {statements : List Sql.CreateStatement}
    (creates : Creates reserved type tableName fields indexes statements) (some_ : statements ≠ []) :
    NamesFit reserved tableName fields indexes := by
  have columnNames := names_of_defines creates.columns
  have indexNames : (statements.flatMap Sql.CreateStatement.indexes).map Sql.IndexDefinition.name =
      indexes.map fun index => Sql.lower index.name.text := by
    have firsts := congrArg (List.map Prod.fst) creates.indexes
    simpa only [List.map_map, Function.comp_def] using firsts
  constructor
  · -- There is a statement, and it names the table.
    obtain ⟨statement, rest, rfl⟩ := List.exists_cons_of_ne_nil some_
    have named := creates.tables statement List.mem_cons_self
    exact named ▸ creates.names statement List.mem_cons_self _ (tableName_mem statement)
  · intro field member
    have name : Sql.lower field.name.text ∈ fields.map fun field => Sql.lower field.name.text :=
      List.mem_map_of_mem member
    rw [← columnNames] at name
    obtain ⟨column, place, same⟩ := List.mem_map.mp name
    obtain ⟨statement, written, own⟩ := List.mem_flatMap.mp place
    exact same ▸ creates.names statement written _ (name_mem_of_column own)
  · intro index member
    have name : Sql.lower index.name.text ∈ indexes.map fun index => Sql.lower index.name.text :=
      List.mem_map_of_mem member
    rw [← indexNames] at name
    obtain ⟨definition, place, same⟩ := List.mem_map.mp name
    obtain ⟨statement, written, own⟩ := List.mem_flatMap.mp place
    exact same ▸ creates.names statement written _ (name_mem_of_index own)
  · exact columnNames ▸ creates.columnsOnce
  · exact indexNames ▸ creates.indexesOnce

/-- The columns of an index over fields with fitting names are no reserved words. -/
theorem columns_free {reserved : String → Prop} {tableName : Identifier} {fields : List NamedField}
    {indexes : List Index} (fit : NamesFit reserved tableName fields indexes) {index : Index}
    (named : ∀ entry ∈ index.entries, IsField fields entry.fieldName) :
    ∀ name ∈ index.columns.map Prod.fst, ¬ reserved name := by
  intro name member
  obtain ⟨column, place, rfl⟩ := List.mem_map.mp member
  obtain ⟨entry, own, rfl⟩ := List.mem_map.mp place
  -- The entry names a field in some case.
  obtain ⟨field, present, same⟩ := named entry own
  have lowered : Sql.lower entry.fieldName = Sql.lower field.name.text := same.symm
  show ¬ reserved (Sql.lower entry.fieldName)
  rw [lowered]
  exact fit.field field present

/-- The statement of a table has no reserved word for a name. -/
theorem table_free {reserved : String → Prop} {type : DBType} {tableName : Identifier} {fields : List NamedField}
    {indexes : List Index} (fit : NamesFit reserved tableName fields indexes)
    (nonempty : fields.map (NamedField.definition type) ≠ [])
    (defines : List.Forall₂ (Defines type) fields (fields.map (NamedField.definition type))) :
    ∀ name ∈ (Sql.CreateStatement.table (Sql.lower tableName.text) (fields.map (NamedField.definition type)) []
      nonempty).names, ¬ reserved name := by
  -- The names are those of the table and its fields.
  intro name written
  simp only [Sql.CreateStatement.names, List.flatMap_nil, List.append_nil, List.mem_cons] at written
  rcases written with rfl | column
  · exact fit.table
  · rw [names_of_defines defines] at column
    obtain ⟨field, present, rfl⟩ := List.mem_map.mp column
    exact fit.field field present

/-- The statement of an index has none either. -/
theorem index_free {reserved : String → Prop} {tableName : Identifier} {fields : List NamedField}
    {indexes : List Index} (fit : NamesFit reserved tableName fields indexes) {index : Index}
    (member : index ∈ indexes) (columns : index.columns ≠ [])
    (named : ∀ entry ∈ index.entries, IsField fields entry.fieldName) :
    ∀ name ∈ (index.creation tableName columns).names, ¬ reserved name := by
  -- The names are those of the index, the table and the columns.
  intro name written
  simp only [Index.creation, Sql.CreateStatement.names, List.mem_cons] at written
  rcases written with rfl | rfl | column
  · exact fit.index index member
  · exact fit.table
  · exact columns_free fit named name column

/-- The statements define a table with its fields and indexes, if all of these can be spelled. -/
theorem createsTable_of {reserved : String → Prop} {type : DBType} {indexes : List Index}
    {fields : List NamedField} {tableName : Identifier}
    (apart : ¬(type = .mysql ∧ indexes ≠ [])) (nonempty : fields ≠ []) (within : IndexesOver fields indexes)
    (entries : ∀ index ∈ indexes, index.entries ≠ []) (width : ∀ field ∈ fields, HasWidth field)
    (fit : NamesFit reserved tableName fields indexes) : CreatesTable reserved type tableName fields indexes := by
  -- The statement of the table is followed by one for every index.
  unfold CreatesTable
  rw [createStatements_eq apart]
  refine ⟨?_, ?_⟩
  · intro text member
    rcases List.mem_cons.mp member with rfl | own
    · exact balanced_tableStatement type tableName fields indexes
    · obtain ⟨index, place, rfl⟩ := List.mem_map.mp own
      exact balanced_indexStatement (within index place)
  · -- The table comes first, with all columns, and then each index.
    have columns : ∀ index : Index, index ∈ indexes → index.columns ≠ [] := fun index member none =>
      entries index member (List.map_eq_nil_iff.mp none)
    let creation (index : { index // index ∈ indexes }) : Sql.CreateStatement :=
      index.1.creation tableName (columns index.1 index.2)
    have others : (indexes.attach.map creation).flatMap Sql.CreateStatement.columns = [] := by
      rw [List.flatMap_eq_nil_iff]
      intro statement member
      obtain ⟨index, -, rfl⟩ := List.mem_map.mp member
      rfl
    -- Only the other statements have indexes, one each.
    have each : ((indexes.attach.map creation).flatMap Sql.CreateStatement.indexes).map
        (fun index => (index.name, index.columns)) =
        indexes.attach.map fun index => (Sql.lower index.1.name.text, index.1.columns) := by
      rw [List.flatMap_map, List.map_flatMap]
      exact List.flatMap_pure_eq_map _ _
    have made := each.trans
      (List.attach_map_val (f := fun index : Index => (Sql.lower index.name.text, index.columns)))
    have defines : List.Forall₂ (Defines type) fields (fields.map (NamedField.definition type)) :=
      List.forall₂_map_right_iff.mpr
        (List.forall₂_same.mpr fun field member => defines_definition (width field member))
    refine ⟨.table (Sql.lower tableName.text) (fields.map (NamedField.definition type)) []
      (by simpa using nonempty) :: indexes.attach.map creation,
      .cons (spelledBy_table nonempty width tableName indexes) ?_, ?_, ?_, ?_, ?_, ?_, ?_⟩
    · -- Every index is spelled by the statement made of it.
      rw [← List.attach_map_val (f := indexStatement tableName.text), List.forall₂_map_left_iff,
        List.forall₂_map_right_iff, List.forall₂_same]
      intro index _
      exact spelledBy_index (columns index.1 index.2) (entries index.1 index.2) (within index.1 index.2) tableName
    · intro statement member
      rcases List.mem_cons.mp member with rfl | own
      · rfl
      · obtain ⟨index, -, rfl⟩ := List.mem_map.mp own
        rfl
    · intro statement member
      rcases List.mem_cons.mp member with rfl | own
      · exact table_free fit (by simpa using nonempty) defines
      · obtain ⟨index, -, rfl⟩ := List.mem_map.mp own
        exact index_free fit index.2 (columns index.1 index.2) (within index.1 index.2)
    · -- Only the table has columns.
      rw [List.flatMap_cons, others, List.append_nil]
      exact defines
    · rw [List.flatMap_cons, others, List.append_nil]
      exact names_of_defines defines ▸ fit.fieldsOnce
    · rw [List.flatMap_cons, Sql.CreateStatement.indexes, List.nil_append]
      exact made
    · rw [List.flatMap_cons, Sql.CreateStatement.indexes, List.nil_append]
      have firsts := congrArg (List.map Prod.fst) made
      simp only [List.map_map, Function.comp_def] at firsts
      exact firsts ▸ fit.indexesOnce

/--
Creation goes well exactly where no table of MySQL has indexes, every index has a column, every width is not negative
and the names fit.

On MySQL the indexes stand behind the parenthesis that closes the table, and one more parenthesis follows them.
-/
theorem createsTable_iff (reserved : String → Prop) (type : DBType) (tableName : Identifier)
    (fields : List NamedField) (indexes : List Index)
    (nonempty : fields ≠ []) (within : IndexesOver fields indexes) :
    CreatesTable reserved type tableName fields indexes ↔
      ¬(type = .mysql ∧ indexes ≠ []) ∧ (∀ index ∈ indexes, index.entries ≠ []) ∧
        (∀ field ∈ fields, HasWidth field) ∧ NamesFit reserved tableName fields indexes := by
  -- Each of the conditions is needed for one part of what creation promises.
  refine ⟨fun ⟨balanced, statements, spelled, creates⟩ =>
      ⟨?_, fun index member none => ?_, fun field member => ?_, ?_⟩,
    fun ⟨apart, entries, width, fit⟩ => createsTable_of apart nonempty within entries width fit⟩
  · rintro ⟨rfl, some⟩
    obtain ⟨text, member, unbalanced⟩ := not_balanced_mysql some within tableName
    exact unbalanced (balanced text member)
  · -- The definition that an index is compared with has a column.
    have member' : (Sql.lower index.name.text, index.columns) ∈
        indexes.map fun index => (Sql.lower index.name.text, index.columns) := List.mem_map_of_mem member
    rw [← creates.indexes] at member'
    obtain ⟨definition, -, same⟩ := List.mem_map.mp member'
    have empty : definition.columns = [] := by
      rw [(Prod.mk.inj same).2, Index.columns, none]
      rfl
    exact definition.columns_ne empty
  · -- The field has a column, which it has with a width only.
    have all : List.Forall₂ (fun field column => HasWidth field ∧ Defines type field column) fields _ :=
      creates.columns.imp fun field column defines => ⟨isSome_columnType.mp (by rw [defines.2.1]; rfl), defines⟩
    exact ((List.forall₂_and_left _ _).mp all).1 field member
  · -- The table has a statement of its own in any case.
    refine creates.namesFit fun none => ?_
    rw [none] at spelled
    exact createStatements_ne_nil type tableName fields indexes (List.forall₂_nil_left_iff.mp spelled)

/-- A table of SQLite with an index over one of its two fields, next to a few reserved words. -/
theorem createsTable_iff_sqlite :
    CreatesTable (fun word => word ∈ ["create", "index", "order", "table", "where"]) .sqlite
      ⟨"devices", by decide⟩
      [⟨⟨"serialNumber", by decide⟩, .varchar, 30, true⟩, ⟨⟨"age", by decide⟩, .bigint, 0, false⟩]
      [⟨⟨"devicesAge", by decide⟩, [⟨"age", .desc⟩]⟩] := by
  -- The index is over a field of the table.
  refine (createsTable_iff _ .sqlite _ _ _ (by simp) ?_).mpr ⟨by decide, by simp, by simp [HasWidth],
    ⟨by decide +kernel, by decide +kernel, by decide +kernel, by decide +kernel, by decide +kernel⟩⟩
  intro index member entry place
  rw [List.mem_singleton] at member
  rw [member, List.mem_singleton] at place
  rw [place]
  exact ⟨_, List.mem_cons_of_mem _ List.mem_cons_self, rfl⟩

/-- On MySQL the same table is created by a statement with one parenthesis too many. -/
theorem not_createsTable_mysql :
    ¬ CreatesTable (fun word => word ∈ ["create", "index", "order", "table", "where"]) .mysql
      ⟨"devices", by decide⟩
      [⟨⟨"serialNumber", by decide⟩, .varchar, 30, true⟩, ⟨⟨"age", by decide⟩, .bigint, 0, false⟩]
      [⟨⟨"devicesAge", by decide⟩, [⟨"age", .desc⟩]⟩] := by
  rintro ⟨balanced, -⟩
  exact absurd balanced (by decide +kernel)

end Orm

end Fms
