import Fms.Sql.Lexer

/-! The condition a where clause denotes over the columns of a relation. -/

namespace Sql

/-- The comparison operators. -/
inductive Comparison where
  | eq | ne | lt | le | gt | ge
  deriving DecidableEq, Repr

/-- Whether two values in a given order satisfy a comparison. -/
def Comparison.holds : Comparison → Ordering → Bool
  | .eq, order => order.isEq
  | .ne, order => order.isNe
  | .lt, order => order.isLT
  | .le, order => order.isLE
  | .gt, order => order.isGT
  | .ge, order => order.isGE

/-- The constants a column is compared with. -/
inductive Constant where
  | text (value : String)
  | number (value : Nat)
  | boolean (value : Bool)
  deriving DecidableEq, Repr

/-- Comparisons of columns with constants, joined by conjunction and disjunction. -/
inductive Condition where
  | compare (column : String) (op : Comparison) (constant : Constant)
  | both (left right : Condition)
  | either (left right : Condition)
  deriving DecidableEq, Repr

/-- Keywords and column names are the same in either case. -/
def lower (word : String) : String :=
  String.ofList (word.toList.map Char.toLower)

theorem lower_ofList (word : List Char) :
    lower (String.ofList word) = String.ofList (word.map Char.toLower) := by
  rw [lower, String.toList_ofList]

/-- The comparison an operator token stands for. -/
def comparison? : String → Option Comparison
  | "=" => some .eq
  | "!=" => some .ne
  | "<" => some .lt
  | "<=" => some .le
  | ">" => some .gt
  | ">=" => some .ge
  | _ => none

/-- The constant a token stands for. -/
def constant? : Token → Option Constant
  | .literal text => some (.text text)
  | .number value => some (.number value)
  | .word text =>
    if lower text = "true" then some (.boolean true)
    else if lower text = "false" then some (.boolean false)
    else none
  | .symbol _ => none

/-- Whether a word is a given keyword. -/
def isKeyword (keyword : String) : Token → Bool
  | .word text => lower text = keyword
  | _ => false

mutual

/-- A disjunction, and the tokens after it. -/
def parseEither : Nat → List Token → Option (Condition × List Token)
  | 0, _ => none
  | fuel + 1, tokens => do
    let (left, rest) ← parseBoth fuel tokens
    match rest with
    | next :: more =>
      if isKeyword "or" next then do
        let (right, after) ← parseEither fuel more
        return (.either left right, after)
      else return (left, rest)
    | [] => return (left, [])

/-- A conjunction, which binds tighter than a disjunction, and the tokens after it. -/
def parseBoth : Nat → List Token → Option (Condition × List Token)
  | 0, _ => none
  | fuel + 1, tokens => do
    let (left, rest) ← parseAtom fuel tokens
    match rest with
    | next :: more =>
      if isKeyword "and" next then do
        let (right, after) ← parseBoth fuel more
        return (.both left right, after)
      else return (left, rest)
    | [] => return (left, [])

/-- A comparison or a condition in parentheses, and the tokens after it. -/
def parseAtom : Nat → List Token → Option (Condition × List Token)
  | 0, _ => none
  | fuel + 1, tokens =>
    match tokens with
    | .symbol "(" :: more => do
      let (inner, rest) ← parseEither fuel more
      match rest with
      | .symbol ")" :: after => return (inner, after)
      | _ => none
    | .word column :: .symbol op :: value :: after => do
      let op ← comparison? op
      let constant ← constant? value
      return (.compare column op constant, after)
    | _ => none

end

/-- The condition a whole token list denotes; every token opens at most three nested calls. -/
def parseCondition (tokens : List Token) : Option Condition := do
  let (condition, rest) ← parseEither (3 * (tokens.length + 1)) tokens
  if rest.isEmpty then some condition else none

/-- A typed column of a relation, read from a row. -/
inductive Column (ρ : Type) where
  | text (read : ρ → String)
  /-- A signed number, as the integer types of SQL are. -/
  | number (read : ρ → Int)
  | boolean (read : ρ → Bool)

/-- The rows a condition selects, when its columns exist and have the types of their constants. -/
def Condition.compile {ρ : Type} (columns : String → Option (Column ρ)) :
    Condition → Option (ρ → Bool)
  | .compare column op constant =>
    match columns (lower column), constant with
    | some (.text read), .text value => some fun row => op.holds (Ord.compare (read row) value)
    | some (.number read), .number value => some fun row => op.holds (Ord.compare (read row) (value : Int))
    | some (.boolean read), .boolean value => some fun row => op.holds (Ord.compare (read row) value)
    | _, _ => none
  | .both left right => do
    let left ← left.compile columns
    let right ← right.compile columns
    return fun row => left row && right row
  | .either left right => do
    let left ← left.compile columns
    let right ← right.compile columns
    return fun row => left row || right row

/-- The rows a where clause selects; text that is no condition over the columns is rejected. -/
def whereClause {ρ : Type} (dialect : Dialect) (columns : String → Option (Column ρ))
    (text : String) : Option (ρ → Bool) := do
  let tokens ← lex dialect text
  let condition ← parseCondition tokens
  condition.compile columns

/-- A clause that lexes, parses and compiles selects what its condition does. -/
theorem whereClause_eq_some {ρ : Type} {dialect : Dialect} {columns : String → Option (Column ρ)}
    {text : String} {tokens : List Token} {c : Condition} {selects : ρ → Bool}
    (lexed : lex dialect text = some tokens) (parsed : parseCondition tokens = some c)
    (compiled : c.compile columns = some selects) :
    whereClause dialect columns text = some selects := by
  -- The three stages succeed one after the other.
  simp only [whereClause, lexed, parsed, compiled, Option.bind_eq_bind, Option.bind_some]

/-- Two values compare as equal exactly when they are the same. -/
theorem holds_eq {α : Type} [Ord α] [Std.LawfulEqOrd α] [DecidableEq α]
    (left right : α) :
    Comparison.eq.holds (compare left right) = decide (left = right) := by
  by_cases same : left = right
  · subst same
    simp [Comparison.holds]
  · -- Different values never compare as equal.
    have apart : compare left right ≠ .eq := fun equal => same (Std.LawfulEqOrd.eq_of_compare equal)
    cases order : compare left right <;> simp_all [Comparison.holds]

/-- Comparing numbers by less-than is their order. -/
theorem holds_lt (left right : Int) :
    Comparison.lt.holds (compare left right) = decide (left < right) := by
  -- Less-than is one of the three orders, and the other two exclude it.
  by_cases below : left < right
  · simp [Comparison.holds, Std.compare_eq_lt.mpr below, below]
  · have order : compare left right ≠ .lt := fun less => below (Std.compare_eq_lt.mp less)
    cases found : compare left right <;> simp_all [Comparison.holds]

/--
A clause that compares two text columns with two spelled literals selects the rows with both values.

The texts around the literals are given by the tokens they are read as.
-/
theorem whereClause_two_texts {ρ : Type} {dialect : Dialect} {columns : String → Option (Column ρ)}
    {first second left left' right right' : String} {readFirst readSecond : ρ → String}
    (firstColumn : columns (lower first) = some (.text readFirst))
    (secondColumn : columns (lower second) = some (.text readSecond))
    (spelledLeft : Spells dialect left left') (spelledRight : Spells dialect right right')
    (front middle back : String)
    (before : feed dialect .gap front.toList = some ([.word first, .symbol "="], .literal []))
    (inside : ∀ read, feed dialect (.literal read) middle.toList =
      some ([.literal (String.ofList read), .word "and", .word second, .symbol "="], .literal []))
    (after : ∀ read, feed dialect (.literal read) back.toList =
      some ([.literal (String.ofList read)], .gap)) :
    whereClause dialect columns (front ++ left ++ middle ++ right ++ back) =
      some fun row => decide (readFirst row = left') && decide (readSecond row = right') := by
  -- Each literal is read in one piece, so the tokens do not depend on its characters.
  have tokens := lex_two_literals spelledLeft spelledRight front middle back
    [.word first, .symbol "="] _ _ before inside after
  simp only [String.ofList_toList] at tokens
  have parsed : parseCondition [.word first, .symbol "=", .literal left', .word "and", .word second,
      .symbol "=", .literal right'] =
      some (.both (.compare first .eq (.text left')) (.compare second .eq (.text right'))) := rfl
  have compiled : (Condition.both (.compare first .eq (.text left'))
      (.compare second .eq (.text right'))).compile columns =
      some fun row => decide (readFirst row = left') && decide (readSecond row = right') := by
    simp only [Condition.compile, firstColumn, secondColumn, holds_eq, Option.bind_eq_bind,
      Option.bind_some, Option.pure_def]
  exact whereClause_eq_some tokens parsed compiled

end Sql
