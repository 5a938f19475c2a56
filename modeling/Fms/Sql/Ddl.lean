import Fms.Sql.Condition
import Fms.Sql.Escaping

/-! The statements that create tables and indexes. -/

namespace Sql

/-- The type of a column: a word, or a word with a width. -/
inductive ColumnType where
  | plain (word : String)
  | sized (word : String) (width : Nat)
  deriving DecidableEq, Repr

/-- The definition of a column. -/
structure ColumnDefinition where
  name : String
  type : ColumnType
  /-- Whether the column is a `unique primary key`. -/
  primaryKey : Bool
  deriving DecidableEq, Repr

/-- The definition of an index; its columns come with whether they are ascending. -/
structure IndexDefinition where
  name : String
  columns : List (String × Bool)
  columns_ne : columns ≠ []

/-- A statement that creates a table or an index, unless it exists. -/
inductive CreateStatement where
  | table (name : String) (columns : List ColumnDefinition) (indexes : List IndexDefinition)
    (columns_ne : columns ≠ [])
  | index (definition : IndexDefinition) (target : String)

/-- Words of a statement. -/
def words (texts : List String) : List Token := texts.map .word

/-- Parts with commas between them. -/
def commaSeparated : List (List Token) → List Token
  | [] => []
  | first :: rest => first ++ rest.flatMap (.symbol "," :: ·)

/-- Tokens in parentheses. -/
def parenthesised (tokens : List Token) : List Token := .symbol "(" :: (tokens ++ [.symbol ")"])

/-- The tokens of a type. -/
def ColumnType.tokens : ColumnType → List Token
  | .plain word => [.word word]
  | .sized word width => [.word word, .symbol "(", .number width, .symbol ")"]

/-- The tokens of a column's definition. -/
def ColumnDefinition.tokens (column : ColumnDefinition) : List Token :=
  .word column.name :: (column.type.tokens ++ if column.primaryKey then words ["unique", "primary", "key"] else [])

/-- The columns of an index, in parentheses. -/
def IndexDefinition.columnTokens (definition : IndexDefinition) : List Token :=
  parenthesised (commaSeparated (definition.columns.map fun column =>
    [.word column.1, .word (if column.2 then "asc" else "desc")]))

/-- The tokens of an index that is defined with its table. -/
def IndexDefinition.tokens (definition : IndexDefinition) : List Token :=
  .word "index" :: .word definition.name :: definition.columnTokens

/-- The tokens of a statement, its words in lower case. -/
def CreateStatement.tokens : CreateStatement → List Token
  | .table name columns indexes _ =>
    words ["create", "table", "if", "not", "exists"] ++ .word name ::
      parenthesised (commaSeparated (columns.map ColumnDefinition.tokens ++ indexes.map IndexDefinition.tokens))
  | .index definition target =>
    words ["create", "index", "if", "not", "exists"] ++ .word definition.name :: .word "on" :: .word target ::
      definition.columnTokens

/-- The table a statement is about. -/
def CreateStatement.tableName : CreateStatement → String
  | .table name _ _ _ => name
  | .index _ target => target

/-- The columns a statement defines. -/
def CreateStatement.columns : CreateStatement → List ColumnDefinition
  | .table _ columns _ _ => columns
  | .index _ _ => []

/-- The indexes a statement defines. -/
def CreateStatement.indexes : CreateStatement → List IndexDefinition
  | .table _ _ indexes _ => indexes
  | .index definition _ => [definition]

/-- The names a statement gives and those it refers to. -/
def CreateStatement.names : CreateStatement → List String
  | .table name columns indexes _ =>
    name :: (columns.map ColumnDefinition.name ++
      indexes.flatMap fun definition => definition.name :: definition.columns.map Prod.fst)
  | .index definition target => definition.name :: target :: definition.columns.map Prod.fst

/-- A token with its word in lower case. -/
def Token.lowered : Token → Token
  | .word text => .word (lower text)
  | token => token

/-- A text is a statement of the grammar; words are the same in either case. -/
def CreateStatement.SpelledBy (dialect : Dialect) (statement : CreateStatement) (text : String) : Prop :=
  (lex dialect text).map (List.map Token.lowered) = some statement.tokens

variable {dialect : Dialect}

/-- A letter in lower case stays as it is. -/
theorem toLower_toLower (c : Char) : c.toLower.toLower = c.toLower := by
  -- Adding 32 to a capital letter leads out of their range.
  unfold Char.toLower
  split
  · -- The small letters come behind the capital ones.
    rename_i upper
    rw [dif_neg]
    intro again
    have below := again.2
    have capital := upper.2
    have first := upper.1
    simp only [UInt32.le_iff_toNat_le, UInt32.toNat_add, ge_iff_le] at below capital first
    simp at below capital first
    omega
  · rfl

/-- A word in lower case stays as it is. -/
@[simp] theorem lower_lower (word : String) : lower (lower word) = lower word := by
  simp only [lower, String.toList_ofList, List.map_map, Function.comp_def, toLower_toLower]

/-- A letter starts a word in either case. -/
theorem startsWord_toLower {c : Char} (starts : startsWord c = true) : startsWord c.toLower = true := by
  -- Only capital letters change, and they become letters again.
  unfold Char.toLower
  split
  · -- A capital letter becomes a small one.
    rename_i upper
    have first := upper.1
    have last := upper.2
    have alpha : ∀ d : Char, d.isAlpha = (decide (d.val ≥ 65 ∧ d.val ≤ 90) ||
        (decide (d.val ≥ 97) && decide (d.val ≤ 122))) := fun d => rfl
    simp only [startsWord, alpha, Bool.or_eq_true, Bool.and_eq_true, decide_eq_true_eq]
    simp only [UInt32.le_iff_toNat_le, ge_iff_le] at first last ⊢
    simp at first last ⊢
    omega
  · exact starts

/-- A word is one in lower case too. -/
theorem isWord_lower {text : String} (word : isWord text = true) : isWord (lower text) = true := by
  -- The first character starts the word, and all others go on with it.
  have continues : ∀ c, continuesWord c = true → continuesWord c.toLower = true := by
    intro c either
    rcases Bool.or_eq_true_iff.mp either with letter | digit
    · simp [continuesWord, startsWord_toLower letter]
    · -- A digit is no capital letter.
      have same : c.toLower = c := by
        unfold Char.toLower
        rw [dif_neg]
        intro upper
        have range : c.isDigit = (decide (c.val ≥ 48) && decide (c.val ≤ 57)) := rfl
        rw [range, Bool.and_eq_true, decide_eq_true_eq, decide_eq_true_eq] at digit
        exact absurd (UInt32.le_trans upper.1 digit.2) (by decide)
      rw [same]
      exact either
  unfold isWord at word ⊢
  rw [lower, String.toList_ofList]
  cases chars : text.toList with
  | nil => simp [chars] at word
  | cons first rest =>
    simp only [chars, Bool.and_eq_true, List.all_eq_true] at word
    simp only [List.map_cons, Bool.and_eq_true, List.all_eq_true, List.mem_map]
    refine ⟨startsWord_toLower word.1, ?_⟩
    rintro _ ⟨c, member, rfl⟩
    exact continues c (word.2 c member)

/-- The text ends, or goes on with a character that no word goes on with. -/
def EndsWord (tail : List Char) : Prop := ∀ c, tail.head? = some c → continuesWord c = false

/-- A word that does not go on is read as one. -/
theorem finish_word_ends {text : String} (word : isWord text = true) {tail : List Char} (ends : EndsWord tail) :
    finish dialect .gap (text.toList ++ tail) = (finish dialect .gap tail).map (.word text :: ·) := by
  have flushed : flush (.word text.toList) = some [.word text] := by simp [flush]
  rw [finish_append (feed_word word), finish_break flushed fun c first => by simp [proceed, ends c first]]
  cases finish dialect .gap tail <;> simp

section Separated

variable {α : Type} {chars : α → List Char} {tokens : α → List Token} {separator : List Char}

/-- Parts with separators between them are read as their tokens with commas between them. -/
theorem finish_separated (comma : feed dialect .gap separator = some ([.symbol ","], .gap))
    (breaks : ∀ tail, EndsWord (separator ++ tail))
    (first : α) (rest : List α)
    (read : ∀ part ∈ first :: rest, ∀ tail, EndsWord tail →
      finish dialect .gap (chars part ++ tail) = (finish dialect .gap tail).map (tokens part ++ ·))
    {tail : List Char} (ends : EndsWord tail) :
    finish dialect .gap (chars first ++ rest.flatMap (fun part => separator ++ chars part) ++ tail) =
      (finish dialect .gap tail).map (commaSeparated ((first :: rest).map tokens) ++ ·) := by
  -- By the parts, of which each is ended by the next separator or by what follows the last one.
  induction rest generalizing first with
  | nil => simpa [commaSeparated] using read first List.mem_cons_self tail ends
  | cons next rest ih =>
    have behind : EndsWord ((next :: rest).flatMap (fun part => separator ++ chars part) ++ tail) := by
      rw [List.flatMap_cons, List.append_assoc, List.append_assoc]
      exact breaks _
    rw [List.append_assoc, read first List.mem_cons_self _ behind, List.flatMap_cons, List.append_assoc,
      List.append_assoc, finish_append comma, ← List.append_assoc,
      ih next fun part member => read part (List.mem_cons_of_mem first member)]
    cases finish dialect .gap tail <;> simp [commaSeparated]

end Separated

end Sql
