import Fms.Sql.Condition

/-! Select statements, and the clauses that order and cut the rows they return. -/

namespace Sql

/-- A column the rows are ordered by. -/
structure OrderTerm where
  column : String
  descending : Bool := false
  deriving DecidableEq, Repr

/-- How many rows are skipped, and how many are returned at most. -/
structure Range where
  offset : Nat
  count : Nat
  deriving DecidableEq, Repr

/-- How the selected rows are ordered and cut. -/
structure Listing where
  order : List OrderTerm := []
  range : Option Range := none
  deriving DecidableEq, Repr

/-- A select statement on one relation. -/
structure Select where
  /-- The list of what is selected, which is not read any further. -/
  items : List Token
  table : String
  condition : Option Condition := none
  groups : List String := []
  listing : Listing := {}
  deriving DecidableEq, Repr

/-- The direction of an order term, ascending when none is given, and the tokens after it. -/
def direction : List Token → Bool × List Token
  | next :: rest =>
    if isKeyword "asc" next then (false, rest)
    else if isKeyword "desc" next then (true, rest)
    else (false, next :: rest)
  | [] => (false, [])

/-- The order terms at the front, separated by commas, and the tokens after them. -/
def orderTerms? : Nat → List Token → Option (List OrderTerm × List Token)
  | fuel + 1, .word column :: rest =>
    let (descending, rest) := direction rest
    match rest with
    | .symbol "," :: more => do
      let (terms, after) ← orderTerms? fuel more
      return (⟨column, descending⟩ :: terms, after)
    | _ => some ([⟨column, descending⟩], rest)
  | _, _ => none

/-- The order clause, if there is one, and the tokens after it. -/
def orderClause? : List Token → Option (List OrderTerm × List Token)
  | first :: second :: rest =>
    if isKeyword "order" first && isKeyword "by" second then orderTerms? rest.length rest
    else some ([], first :: second :: rest)
  | tokens => some ([], tokens)

/-- The range, if there is one, and the tokens after it; not every product knows the form with a comma. -/
def rangeClause (comma : Bool) : List Token → Option Range × List Token
  | limit :: .number first :: separator :: .number second :: rest =>
    if isKeyword "limit" limit && comma && decide (separator = .symbol ",") then
      (some ⟨first, second⟩, rest)
    else if isKeyword "limit" limit && isKeyword "offset" separator then (some ⟨second, first⟩, rest)
    else (none, limit :: .number first :: separator :: .number second :: rest)
  | limit :: .number count :: rest =>
    if isKeyword "limit" limit then (some ⟨0, count⟩, rest)
    else (none, limit :: .number count :: rest)
  | tokens => (none, tokens)

/-- Whether the statement ends here; what is behind a semicolon is not part of it. -/
def ends : List Token → Bool
  | [] => true
  | next :: _ => decide (next = .symbol ";")

/-- The end of a statement, from its order clause on. -/
def listing? (comma : Bool) (tokens : List Token) : Option Listing := do
  let (order, rest) ← orderClause? tokens
  let (range, rest) := rangeClause comma rest
  if ends rest then some ⟨order, range⟩ else none

/-- The condition, if there is one, and the tokens after it. -/
def conditionClause? : List Token → Option (Option Condition × List Token)
  | first :: rest =>
    if isKeyword "where" first then do
      let (condition, rest) ← parseEither (3 * (rest.length + 1)) rest
      return (some condition, rest)
    else some (none, first :: rest)
  | [] => some (none, [])

/-- The columns at the front, separated by commas, and the tokens after them. -/
def groupColumns? : Nat → List Token → Option (List String × List Token)
  | fuel + 1, .word column :: .symbol "," :: rest => do
    let (columns, after) ← groupColumns? fuel rest
    return (column :: columns, after)
  | _, .word column :: rest => some ([column], rest)
  | _, _ => none

/-- The columns of the group clause, if there is one, and the tokens after it. -/
def groupClause? : List Token → Option (List String × List Token)
  | first :: second :: rest =>
    if isKeyword "group" first && isKeyword "by" second then groupColumns? rest.length rest
    else some ([], first :: second :: rest)
  | tokens => some ([], tokens)

/-- The statement a token list begins with, if it is one. -/
def select? (comma : Bool) : List Token → Option Select
  | verb :: rest =>
    match rest.dropWhile fun token => !isKeyword "from" token with
    | _ :: .word table :: rest' => do
      let (condition, rest') ← conditionClause? rest'
      let (groups, rest') ← groupClause? rest'
      let listing ← listing? comma rest'
      if isKeyword "select" verb then
        some ⟨rest.takeWhile fun token => !isKeyword "from" token, table, condition, groups, listing⟩
      else none
    | _ => none
  | [] => none

end Sql
