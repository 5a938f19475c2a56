import Fms.Sql.Escaping
import Fms.Storage.Orm

/-! `WHERE_AND` and `OP`: the clauses that the ORM builds around escaped values. -/

namespace Fms

namespace Orm

/-- The name of a field, which a statement spells as one word. -/
structure FieldName where
  text : String
  isWord : Sql.isWord text = true

/-- The values `WHERE_AND` takes: `std::string` and `const char *`, `bool`, and the integer types. -/
inductive WhereValue where
  | text (Value : String)
  | boolean (Value : Bool)
  | integer (Value : Int)
  deriving DecidableEq, Repr

/-- What is put between two comparisons. -/
def separated (Result : String) : String :=
  if Result ≠ "" then Result ++ " and " else Result

/-- `WHERE_AND_`, which leaves empty texts out. -/
@[grind =]
def whereAnd_ : String → List (FieldName × WhereValue) → String
  | Result, [] => Result
  | Result, (fieldName, .text Value) :: args =>
    if Value ≠ "" then
      whereAnd_ (separated Result ++ fieldName.text ++ "=" ++ "'" ++ escape Value ++ "'") args
    else whereAnd_ Result args
  | Result, (fieldName, .boolean Value) :: args =>
    whereAnd_ (separated Result ++ fieldName.text ++ "=" ++ if Value then "true" else "false") args
  | Result, (fieldName, .integer Value) :: args =>
    whereAnd_ (separated Result ++ fieldName.text ++ "=" ++ toString Value) args

/-- `WHERE_AND`. -/
def whereAnd (args : List (FieldName × WhereValue)) : String :=
  whereAnd_ "" args

/-- `SqlComparison`. -/
inductive SqlComparison where
  | eq | neq | lt | lte | gt | gte
  deriving DecidableEq, Repr

/-- `SQLCOMPS`. -/
def SqlComparison.text : SqlComparison → String
  | .eq => "="
  | .neq => "!="
  | .lt => "<"
  | .lte => "<="
  | .gt => ">"
  | .gte => ">="

/-- `OP` for a text. -/
def op (F : FieldName) (O : SqlComparison) (V : String) : String :=
  "(" ++ F.text ++ O.text ++ "'" ++ escape V ++ "')"

/-- The tokens that denote a value. -/
def WhereValue.tokens : WhereValue → List Sql.Token
  | .text Value => [.literal Value]
  | .boolean Value => [.word (if Value then "true" else "false")]
  | .integer (.ofNat n) => [.number n]
  | .integer (.negSucc n) => [.symbol "-", .number (n + 1)]

/-- The tokens of the comparison of a field with a value. -/
def comparison (argument : FieldName × WhereValue) : List Sql.Token :=
  .word argument.1.text :: .symbol "=" :: argument.2.tokens

/-- The tokens of a conjunction of comparisons. -/
def conjunction : List (FieldName × WhereValue) → List Sql.Token
  | [] => []
  | first :: rest => comparison first ++ rest.flatMap fun next => .word "and" :: comparison next

/-- The arguments that are compared: all but the empty texts. -/
def compared (args : List (FieldName × WhereValue)) : List (FieldName × WhereValue) :=
  args.filter fun argument => decide (argument.2 ≠ .text "")

/--
Where a backslash escapes, the text has one only before a wildcard of patterns; where a statement ends at its first
null character, the text has none.
-/
def Harmless (type : DBType) (V : String) : Prop :=
  (type = .mysql → Sql.BackslashesKept V.toList) ∧ (type ≠ .mysql → Sql.nul ∉ V.toList)

/-- The products differ in nothing but what a backslash and a null character do. -/
theorem harmless_iff (type : DBType) (V : String) :
    Harmless type V ↔ (type.dialect.backslashEscapes = true → Sql.BackslashesKept V.toList) ∧
      Sql.Uncut type.dialect V.toList := by
  have escapes : type.dialect.backslashEscapes = true ↔ type = .mysql := by cases type <;> decide
  have ends : type.dialect.endsAtNul = true ↔ type ≠ .mysql := by cases type <;> decide
  rw [Harmless, Sql.Uncut, escapes, ends]

/-- The empty text is harmless. -/
theorem harmless_empty (type : DBType) : Harmless type "" :=
  ⟨fun _ => Sql.backslashesKept_nil, fun _ => List.not_mem_nil⟩

/-- The characters of a value. -/
def WhereValue.chars : WhereValue → List Char
  | .text Value => '\'' :: (Sql.doubled Value.toList ++ ['\''])
  | .boolean Value => (if Value then "true" else "false").toList
  | .integer Value => (toString Value).toList

/-- The characters of a comparison. -/
def comparisonChars (argument : FieldName × WhereValue) : List Char :=
  argument.1.text.toList ++ '=' :: argument.2.chars

/-- The characters of the comparisons behind the first. -/
def behindChars (args : List (FieldName × WhereValue)) : List Char :=
  args.flatMap fun argument => " and ".toList ++ comparisonChars argument

/-- One argument adds its comparison, unless it is an empty text. -/
theorem whereAnd_eq_cons (Result : String) (argument : FieldName × WhereValue)
    (args : List (FieldName × WhereValue)) :
    whereAnd_ Result (argument :: args) =
      if argument.2 = .text "" then whereAnd_ Result args
      else whereAnd_ (separated Result ++ String.ofList (comparisonChars argument)) args := by
  obtain ⟨fieldName, value⟩ := argument
  cases value with
  -- All three kinds of values are appended behind the same name and sign.
  | text Value =>
    by_cases empty : Value = ""
    · simp [whereAnd_, empty]
    · have same : separated Result ++ fieldName.text ++ "=" ++ "'" ++ escape Value ++ "'" =
          separated Result ++ String.ofList (comparisonChars (fieldName, .text Value)) :=
        String.toList_inj.mp (by simp [comparisonChars, WhereValue.chars, toList_escape, Sql.doubled])
      simp [whereAnd_, empty, same]
  | boolean Value =>
    have same : separated Result ++ fieldName.text ++ "=" ++ (if Value then "true" else "false") =
        separated Result ++ String.ofList (comparisonChars (fieldName, .boolean Value)) :=
      String.toList_inj.mp (by simp [comparisonChars, WhereValue.chars])
    simp [whereAnd_, same]
  | integer Value =>
    have same : separated Result ++ fieldName.text ++ "=" ++ toString Value =
        separated Result ++ String.ofList (comparisonChars (fieldName, .integer Value)) :=
      String.toList_inj.mp (by simp [comparisonChars, WhereValue.chars])
    rw [whereAnd_, same, if_neg (by simp)]

/-- Behind a comparison, every further one is joined with a conjunction. -/
theorem toList_behind {Result : String} (begun : Result ≠ "") (args : List (FieldName × WhereValue)) :
    (whereAnd_ Result args).toList = Result.toList ++ behindChars (compared args) := by
  -- Once a comparison is there the text is never empty again, so every later one is joined.
  induction args generalizing Result with
  | nil => simp [whereAnd_, compared, behindChars]
  | cons argument args ih =>
    rw [whereAnd_eq_cons]
    by_cases empty : argument.2 = .text ""
    · rw [if_pos empty, ih begun]
      simp [compared, empty]
    · have joined : separated Result = Result ++ " and " := if_pos begun
      have more : separated Result ++ String.ofList (comparisonChars argument) ≠ "" := by
        intro same
        have nothing := congrArg String.toList same
        simp [joined] at nothing
      rw [if_neg empty, ih more, joined]
      simp [compared, empty, behindChars]

/-- The clause is the first comparison and those behind it. -/
theorem toList_whereAnd (args : List (FieldName × WhereValue)) :
    (whereAnd args).toList = match compared args with
      | [] => []
      | first :: rest => comparisonChars first ++ behindChars rest := by
  -- Arguments that are left out put off the first comparison.
  induction args with
  | nil => simp [whereAnd, whereAnd_, compared]
  | cons argument args ih =>
    rw [whereAnd, whereAnd_eq_cons]
    by_cases empty : argument.2 = .text ""
    · have skipped : compared (argument :: args) = compared args := by simp [compared, empty]
      rw [if_pos empty, skipped]
      exact ih
    · have kept : compared (argument :: args) = argument :: compared args := by simp [compared, empty]
      have first : separated "" = "" := rfl
      -- A comparison has at least its equals sign, so that the next one is joined to it.
      have begun : "" ++ String.ofList (comparisonChars argument) ≠ "" := by
        intro same
        have nothing := congrArg String.toList same
        simp [comparisonChars] at nothing
      rw [if_neg empty, kept, first, toList_behind begun]
      simp

/-- The text ends, or goes on with a space. -/
def Breaks (tail : List Char) : Prop :=
  ∀ c, tail.head? = some c → c = ' '

/-- A number or a word that is followed by a space or the end is a token of its own. -/
theorem finish_ended {dialect : Sql.Dialect} {mode : Sql.Mode} {ended : List Sql.Token}
    (flushed : Sql.flush mode = some ended) (space : Sql.proceed dialect mode ' ' = Sql.restart mode ' ')
    {tail : List Char} (breaks : Breaks tail) :
    Sql.finish dialect mode tail = (Sql.finish dialect .gap tail).map (ended ++ ·) :=
  Sql.finish_break flushed fun c first => by rw [breaks c first, space]

/-- A number that is followed by a space or the end is read as one. -/
theorem finish_number {dialect : Sql.Dialect} (n : Nat) {tail : List Char} (breaks : Breaks tail) :
    Sql.finish dialect .gap ((toString n).toList ++ tail) =
      (Sql.finish dialect .gap tail).map (.number n :: ·) := by
  refine Sql.finish_number n fun c first => ?_
  rw [breaks c first]
  rfl

/-- A word that is followed by a space or the end is read as one. -/
theorem finish_word {dialect : Sql.Dialect} {text : String} (word : Sql.isWord text = true)
    {tail : List Char} (breaks : Breaks tail) :
    Sql.finish dialect .gap (text.toList ++ tail) =
      (Sql.finish dialect .gap tail).map (.word text :: ·) := by
  -- A space does not go on with a word.
  have flushed : Sql.flush (.word text.toList) = some [.word text] := by simp [Sql.flush]
  have space : Sql.proceed dialect (.word text.toList) ' ' = Sql.restart (.word text.toList) ' ' := rfl
  rw [Sql.finish_append (Sql.feed_word word), finish_ended flushed space breaks]
  cases Sql.finish dialect .gap tail <;> simp

/-- A negative number is read as a sign and a number. -/
theorem finish_negative {dialect : Sql.Dialect} (n : Nat) {tail : List Char} (breaks : Breaks tail) :
    Sql.finish dialect .gap ((toString (Int.negSucc n)).toList ++ tail) =
      (Sql.finish dialect .gap tail).map ([.symbol "-", .number (n + 1)] ++ ·) := by
  have sign : Sql.step dialect .gap '-' = some ([], .dash) := rfl
  have chars : (toString (Int.negSucc n)).toList ++ tail = '-' :: ((toString (n + 1)).toList ++ tail) := by
    have text : toString (Int.negSucc n) = "-" ++ toString (n + 1) := rfl
    rw [text, String.toList_append]
    rfl
  -- A digit follows, so the sign begins no comment.
  have ends : ∀ c, ((toString (n + 1)).toList ++ tail).head? = some c →
      Sql.proceed dialect .dash c = Sql.restart .dash c := by
    intro c first
    have digit : c.isDigit = true := by
      cases digits : Nat.toDigits 10 (n + 1) with
      | nil => exact absurd digits Nat.toDigits_ne_nil
      | cons d rest =>
        have member : d ∈ Nat.toDigits 10 (n + 1) := by simp [digits]
        have isDigit := Nat.isDigit_of_mem_toDigits (by decide) (by decide) member
        simp only [Nat.toString_eq_repr, Nat.toList_repr, digits, List.cons_append, List.head?_cons] at first
        rw [← Option.some.inj first]
        exact isDigit
    have another : c ≠ '-' := by
      rintro rfl
      exact absurd digit (by decide)
    simp [Sql.proceed, another]
  rw [chars, Sql.finish_cons sign, Sql.finish_break (by rfl) ends, finish_number _ breaks]
  cases Sql.finish dialect .gap tail <;> simp

/-- A value is read as its tokens exactly when a text in it is harmless. -/
theorem finish_value_iff (type : DBType) (value : WhereValue) {tail : List Char} (breaks : Breaks tail)
    (tokens : List Sql.Token) :
    Sql.finish type.dialect .gap (value.chars ++ tail) = some (value.tokens ++ tokens) ↔
      (∀ V, value = .text V → Harmless type V) ∧ Sql.finish type.dialect .gap tail = some tokens := by
  -- Values other than texts are read as their tokens in any case.
  have plain {chars : List Char} {own : List Sql.Token} (other : ∀ V, value ≠ .text V)
      (read : Sql.finish type.dialect .gap (chars ++ tail) =
        (Sql.finish type.dialect .gap tail).map (own ++ ·)) :
      Sql.finish type.dialect .gap (chars ++ tail) = some (own ++ tokens) ↔
        (∀ V, value = .text V → Harmless type V) ∧ Sql.finish type.dialect .gap tail = some tokens := by
    rw [read]
    constructor
    · intro mapped
      obtain ⟨rest, finished, same⟩ := Option.map_eq_some_iff.mp mapped
      exact ⟨fun V same => absurd same (other V), by rw [finished, List.append_cancel_left same]⟩
    · rintro ⟨_, finished⟩
      rw [finished, Option.map_some]
  cases value with
  | text V =>
    -- A text is the one value that can be misread.
    have apart : tail.head? ≠ some '\'' := fun first => absurd (breaks _ first) (by decide)
    have opens : Sql.step type.dialect .gap '\'' = some ([], .literal []) := rfl
    have chars : (WhereValue.text V).chars ++ tail =
        '\'' :: (Sql.doubled V.toList ++ '\'' :: tail) := by simp [WhereValue.chars]
    have literal := @Sql.finish_literal_iff type.dialect V.toList tail apart tokens
    rw [chars, Sql.finish_cons opens]
    simp only [String.ofList_toList, ← and_assoc, ← harmless_iff] at literal
    simpa [WhereValue.tokens] using literal
  | boolean V =>
    refine plain (by simp) ?_
    have word : Sql.isWord (if V then "true" else "false") = true := by cases V <;> decide
    exact finish_word word breaks
  | integer V =>
    cases V with
    | ofNat n => exact plain (by simp) (finish_number n breaks)
    | negSucc n => exact plain (by simp) (finish_negative n breaks)

/-- The names of fields are compared with the values that follow them. -/
theorem finish_comparison_iff (type : DBType) (argument : FieldName × WhereValue) {tail : List Char}
    (breaks : Breaks tail) (tokens : List Sql.Token) :
    Sql.finish type.dialect .gap (comparisonChars argument ++ tail) =
        some (comparison argument ++ tokens) ↔
      (∀ V, argument.2 = .text V → Harmless type V) ∧ Sql.finish type.dialect .gap tail = some tokens := by
  -- The equals sign ends the name and stands for itself.
  have named : Sql.step type.dialect (.word argument.1.text.toList) '=' =
      some ([.word argument.1.text, .symbol "="], .gap) := by
    rw [Sql.step_eq_proceed fun _ => by decide]
    simp [Sql.proceed, Sql.continuesWord, Sql.startsWord, Sql.restart, Sql.flush, Sql.start, Sql.isSpace]
  have chars : comparisonChars argument ++ tail =
      argument.1.text.toList ++ '=' :: (argument.2.chars ++ tail) := by simp [comparisonChars]
  have value := finish_value_iff type argument.2 breaks tokens
  rw [chars, Sql.finish_append (Sql.feed_word argument.1.isWord), Sql.finish_cons named]
  simpa [comparison] using value

/-- What stands behind a comparison ends it. -/
theorem breaks_behindChars (args : List (FieldName × WhereValue)) : Breaks (behindChars args) := by
  intro c first
  -- Every further comparison is joined with a conjunction, which begins with a space.
  cases args with
  | nil => contradiction
  | cons argument args =>
    have space : (behindChars (argument :: args)).head? = some ' ' := rfl
    exact (Option.some.inj (space.symm.trans first)).symm

/-- The comparisons behind the first are read as such exactly when their texts are harmless. -/
theorem finish_behind_iff (type : DBType) (args : List (FieldName × WhereValue)) :
    Sql.finish type.dialect .gap (behindChars args) =
        some (args.flatMap fun next => .word "and" :: comparison next) ↔
      ∀ argument ∈ args, ∀ V, argument.2 = .text V → Harmless type V := by
  -- Each comparison is ended by the next, or by the end of the clause.
  induction args with
  | nil => simp [behindChars, Sql.finish, Sql.feed, Sql.flush]
  | cons argument args ih =>
    have chars : behindChars (argument :: args) =
        " and ".toList ++ (comparisonChars argument ++ behindChars args) := by simp [behindChars]
    have keyword : Sql.feed type.dialect .gap " and ".toList = some ([.word "and"], .gap) := rfl
    have first := finish_comparison_iff type argument (breaks_behindChars args)
      (args.flatMap fun next => .word "and" :: comparison next)
    rw [chars, Sql.finish_append keyword, List.forall_mem_cons, ← ih, ← first]
    simp

/-- The operator of a comparison is read as one symbol, and a literal begins behind it. -/
theorem feed_operator {dialect : Sql.Dialect} (F : FieldName) (O : SqlComparison) :
    Sql.feed dialect (.word F.text.toList) (O.text ++ "'").toList =
      some ([.word F.text, .symbol O.text], .literal []) := by
  cases O <;> simp [SqlComparison.text, Sql.feed, Sql.step, Sql.nul, Sql.proceed, Sql.continuesWord,
    Sql.startsWord, Sql.restart, Sql.flush, Sql.start, Sql.isSpace]

/--
The clauses mean what they say exactly where no text is misread.

On MySQL a backslash escapes in a string literal by default; elsewhere a null character ends the statement.
-/
theorem clauses_lex_iff (type : DBType) :
    (∀ args : List (FieldName × WhereValue),
      Sql.lex type.dialect (whereAnd args) = some (conjunction (compared args)) ↔
        ∀ argument ∈ args, ∀ V, argument.2 = .text V → Harmless type V) ∧
    ∀ (F : FieldName) (O : SqlComparison) (V : String),
      Sql.lex type.dialect (op F O V) =
          some [.symbol "(", .word F.text, .symbol O.text, .literal V, .symbol ")"] ↔
        Harmless type V := by
  constructor
  · intro args
    -- An empty text that is left out would have been harmless.
    have skipped : (∀ argument ∈ args, ∀ V, argument.2 = .text V → Harmless type V) ↔
        ∀ argument ∈ compared args, ∀ V, argument.2 = .text V → Harmless type V := by
      constructor
      · intro all argument member
        exact all argument (List.mem_of_mem_filter member)
      · intro all argument member V same
        by_cases empty : V = ""
        · subst empty
          exact harmless_empty type
        · exact all argument (List.mem_filter.mpr ⟨member, by simp [same, empty]⟩) V same
    rw [skipped, Sql.lex_eq_finish, toList_whereAnd]
    cases compared args with
    | nil => simp [conjunction, Sql.finish, Sql.feed, Sql.flush]
    | cons first rest =>
      have begun := finish_comparison_iff type first (breaks_behindChars rest)
        (rest.flatMap fun next => .word "and" :: comparison next)
      rw [List.forall_mem_cons, ← finish_behind_iff, ← begun]
      rfl
  · intro F O V
    -- Here the closing parenthesis comes after the literal, and not a space.
    have chars : (op F O V).toList = '(' :: (F.text.toList ++ ((O.text ++ "'").toList ++
        (Sql.doubled V.toList ++ '\'' :: [')']))) := by
      simp [op, toList_escape, Sql.doubled]
    have opens : Sql.step type.dialect .gap '(' = some ([.symbol "("], .gap) := rfl
    have closes : Sql.finish type.dialect .gap [')'] = some [.symbol ")"] := rfl
    have literal := @Sql.finish_literal_iff type.dialect V.toList [')'] (by decide) [.symbol ")"]
    rw [Sql.lex_eq_finish, chars, Sql.finish_cons opens, Sql.finish_append (Sql.feed_word F.isWord),
      Sql.finish_append (feed_operator F O)]
    simp only [String.ofList_toList, closes, ← and_assoc, ← harmless_iff] at literal
    simpa using literal

/-- On MySQL a backslash at the end of a text escapes the quote that should close its literal. -/
theorem backslash_escapes_quote :
    ¬ ∀ (type : DBType) (args : List (FieldName × WhereValue)),
      Sql.lex type.dialect (whereAnd args) = some (conjunction (compared args)) := by
  intro means
  have last := means .mysql [(⟨"revision", by decide⟩, .text "\\")]
  exact absurd last (by decide)

end Orm

end Fms
