import Fms.Sql.Condition
import Fms.Sql.Escaping

/-! What a text spliced between quotes can turn a where clause into. -/

namespace Sql

/-- The least number of characters a token takes up in a statement. -/
def Token.cost : Token → Nat
  | .word text => text.length
  | .number _ => 1
  | .literal text => text.length + 2
  | .symbol _ => 1

/-- The least number of characters some tokens take up. -/
def costs : List Token → Nat
  | [] => 0
  | token :: rest => token.cost + costs rest

@[simp] theorem costs_nil : costs [] = 0 := rfl

@[simp] theorem costs_cons (token : Token) (rest : List Token) :
    costs (token :: rest) = token.cost + costs rest := rfl

@[simp] theorem costs_append (front back : List Token) :
    costs (front ++ back) = costs front + costs back := by
  induction front with
  | nil => simp
  | cons token rest ih =>
    simp only [List.cons_append, costs_cons, ih]
    omega

/-- The least number of characters that have led into a mode since the last token. -/
def Mode.cost : Mode → Nat
  | .gap | .comment | .ended => 0
  | .word read => read.length
  | .number _ | .operator _ | .dash => 1
  | .literal read => read.length + 1
  | .escape read | .closing read => read.length + 2

variable {dialect : Dialect}

/-- A token costs no more than the mode that completes it. -/
theorem cost_flush {mode : Mode} {ended : List Token} (flushed : flush mode = some ended) :
    costs ended ≤ mode.cost := by
  -- A mode that ends has read the whole of the token it completes.
  cases mode with
  | gap | word | number | closing | dash | comment | ended =>
    cases flushed
    simp [Mode.cost, Token.cost]
  | operator first =>
    simp only [flush] at flushed
    split at flushed
    · contradiction
    · cases flushed
      simp [Mode.cost, Token.cost]
  | literal | escape => contradiction

/-- The first character of a token pays for what it starts. -/
theorem cost_start {c : Char} {started : List Token} {next : Mode}
    (begun : start c = some (started, next)) : costs started + next.cost ≤ 1 := by
  unfold start at begun
  -- Every branch starts one mode or completes one symbol.
  repeat' split at begun
  all_goals first
    | contradiction
    | (cases begun; simp [Mode.cost, Token.cost])

/-- One character pays for what a restart adds. -/
theorem cost_restart {mode : Mode} {c : Char} {emitted : List Token} {next : Mode}
    (restarted : restart mode c = some (emitted, next)) :
    costs emitted + next.cost ≤ mode.cost + 1 := by
  simp only [restart, Option.bind_eq_bind, Option.bind_eq_some_iff, Option.pure_def,
    Option.some.injEq, Prod.mk.injEq] at restarted
  obtain ⟨ended, flushed, ⟨started, mode'⟩, begun, rfl, rfl⟩ := restarted
  have first := cost_flush flushed
  have second := cost_start begun
  simp only [costs_append]
  omega

/-- An escape stands for no more characters than it has. -/
theorem length_unescape_le (c : Char) : (unescape c).length ≤ 2 := by
  unfold unescape
  repeat' split
  all_goals simp

/-- One character of a statement pays for what it adds. -/
theorem cost_proceed {mode : Mode} {c : Char} {emitted : List Token} {next : Mode}
    (stepped : proceed dialect mode c = some (emitted, next)) :
    costs emitted + next.cost ≤ mode.cost + 1 := by
  -- Between two tokens a character starts one; elsewhere it goes on, ends, or restarts.
  cases mode with
  | gap => exact Nat.le_trans (cost_start stepped) (Nat.le_add_left 1 _)
  | escape read =>
    have short := length_unescape_le c
    cases stepped
    simp only [costs_nil, Mode.cost, List.length_append]
    omega
  | word read | number read | literal read | closing read | operator first | dash | comment | ended =>
    simp only [proceed] at stepped
    repeat' split at stepped
    all_goals first
      | contradiction
      | exact cost_restart stepped
      | (cases stepped; simp [Mode.cost, Token.cost])

/-- One character pays for what its step adds. -/
theorem cost_step {mode : Mode} {c : Char} {emitted : List Token} {next : Mode}
    (stepped : step dialect mode c = some (emitted, next)) :
    costs emitted + next.cost ≤ mode.cost + 1 := by
  unfold step at stepped
  split at stepped
  · -- The end of the statement completes a token that its mode has paid for.
    obtain ⟨completed, flushed, same⟩ := Option.map_eq_some_iff.mp stepped
    cases same
    exact Nat.le_trans (cost_flush flushed) (Nat.le_add_right _ 1)
  · exact cost_proceed stepped

/-- The characters read pay for the tokens they complete. -/
theorem cost_feed {mode : Mode} {text : List Char} {emitted : List Token} {last : Mode}
    (fed : feed dialect mode text = some (emitted, last)) :
    costs emitted + last.cost ≤ mode.cost + text.length := by
  -- The mode pays for what it has read, so it stays quantified over.
  induction text generalizing mode emitted with
  | nil =>
    cases fed
    simp
  | cons c rest ih =>
    simp only [feed, Option.bind_eq_bind, Option.bind_eq_some_iff, Option.pure_def,
      Option.some.injEq, Prod.mk.injEq] at fed
    obtain ⟨⟨first, next⟩, stepped, ⟨more, last'⟩, fedRest, rfl, rfl⟩ := fed
    have head := cost_step stepped
    have tail : costs more + last'.cost ≤ next.cost + rest.length := ih fedRest
    simp only [costs_append, List.length_cons]
    omega

/-- A statement is at least as long as its tokens. -/
theorem cost_lex {text : String} {tokens : List Token} (lexed : lex dialect text = some tokens) :
    costs tokens ≤ text.length := by
  -- The end of the text completes the last token, which its mode has paid for.
  simp only [lex, Option.bind_eq_bind, Option.bind_eq_some_iff, Option.pure_def,
    Option.some.injEq] at lexed
  obtain ⟨⟨emitted, last⟩, fed, ended, flushed, rfl⟩ := lexed
  have front := cost_feed fed
  have back : costs ended ≤ last.cost := cost_flush flushed
  have nothing : Mode.gap.cost = 0 := rfl
  rw [String.length_toList] at front
  simp only [costs_append]
  omega

/-- A comparison of a condition. -/
structure Atom where
  column : String
  op : Comparison
  constant : Constant
  deriving DecidableEq, Repr

/-- The comparisons of a condition, in the order they are written. -/
def Condition.atoms : Condition → List Atom
  | .compare column op constant => [⟨column, op, constant⟩]
  | .both left right | .either left right => left.atoms ++ right.atoms

/-- The least number of characters a constant takes up. -/
def Constant.cost : Constant → Nat
  | .text value => value.length + 2
  | .number _ | .boolean _ => 1

/-- The least number of characters a comparison takes up. -/
def Atom.cost (atom : Atom) : Nat :=
  atom.column.length + 1 + atom.constant.cost

/-- The least number of characters some comparisons take up. -/
def atomCosts : List Atom → Nat
  | [] => 0
  | atom :: rest => atom.cost + atomCosts rest

@[simp] theorem atomCosts_nil : atomCosts [] = 0 := rfl

@[simp] theorem atomCosts_cons (atom : Atom) (rest : List Atom) :
    atomCosts (atom :: rest) = atom.cost + atomCosts rest := rfl

@[simp] theorem atomCosts_append (front back : List Atom) :
    atomCosts (front ++ back) = atomCosts front + atomCosts back := by
  induction front with
  | nil => simp
  | cons atom rest ih =>
    simp only [List.cons_append, atomCosts_cons, ih]
    omega

/-- Changing the case of a word keeps its length. -/
theorem length_lower (word : String) : (lower word).length = word.length := by
  rw [lower, String.length_ofList, List.length_map, String.length_toList]

/-- A constant costs no more than its token. -/
theorem cost_constant {token : Token} {constant : Constant}
    (denotes : constant? token = some constant) : constant.cost ≤ token.cost := by
  -- Only the two words need an argument: they have characters, and a boolean costs one.
  cases token with
  | literal text =>
    cases denotes
    exact Nat.le_refl _
  | number value =>
    cases denotes
    exact Nat.le_refl _
  | symbol text => cases denotes
  | word text =>
    -- The two words that denote constants have characters.
    have lengths := length_lower text
    simp only [constant?] at denotes
    split at denotes
    · rename_i named
      cases denotes
      rw [named] at lengths
      have four : "true".length = 4 := by decide
      simp only [Constant.cost, Token.cost]
      omega
    · split at denotes
      · rename_i named
        cases denotes
        rw [named] at lengths
        have five : "false".length = 5 := by decide
        simp only [Constant.cost, Token.cost]
        omega
      · cases denotes

/-- A disjunction is a conjunction, or one joined to another disjunction. -/
theorem parseEither_cases {fuel : Nat} {tokens rest : List Token} {c : Condition}
    (parsed : parseEither (fuel + 1) tokens = some (c, rest)) :
    ∃ left middle, parseBoth fuel tokens = some (left, middle) ∧
      ((c = left ∧ rest = middle) ∨ ∃ next more right, middle = next :: more ∧
        parseEither fuel more = some (right, rest) ∧ c = .either left right) := by
  simp only [parseEither, Option.bind_eq_bind, Option.bind_eq_some_iff] at parsed
  obtain ⟨⟨left, middle⟩, first, parsed⟩ := parsed
  refine ⟨left, middle, first, ?_⟩
  -- A disjunction goes on exactly where the keyword follows.
  cases middle with
  | nil =>
    cases parsed
    exact Or.inl ⟨rfl, rfl⟩
  | cons next more =>
    simp only at parsed
    split at parsed
    · simp only [Option.bind_eq_some_iff, Option.pure_def, Option.some.injEq,
        Prod.mk.injEq] at parsed
      obtain ⟨⟨right, after⟩, second, rfl, rfl⟩ := parsed
      exact Or.inr ⟨next, more, right, rfl, second, rfl⟩
    · cases parsed
      exact Or.inl ⟨rfl, rfl⟩

/-- A conjunction is an atom, or one joined to another conjunction where the keyword follows. -/
theorem parseBoth_cases {fuel : Nat} {tokens rest : List Token} {c : Condition}
    (parsed : parseBoth (fuel + 1) tokens = some (c, rest)) :
    ∃ left middle, parseAtom fuel tokens = some (left, middle) ∧
      ((c = left ∧ rest = middle ∧
          ∀ next more, middle = next :: more → isKeyword "and" next = false) ∨
        ∃ next more right, middle = next :: more ∧
          parseBoth fuel more = some (right, rest) ∧ c = .both left right) := by
  simp only [parseBoth, Option.bind_eq_bind, Option.bind_eq_some_iff] at parsed
  obtain ⟨⟨left, middle⟩, first, parsed⟩ := parsed
  refine ⟨left, middle, first, ?_⟩
  -- The same way, and the absence of the keyword is kept for later.
  cases middle with
  | nil =>
    cases parsed
    exact Or.inl ⟨rfl, rfl, fun next more none_ => nomatch none_⟩
  | cons next more =>
    simp only at parsed
    split at parsed
    · simp only [Option.bind_eq_some_iff, Option.pure_def, Option.some.injEq,
        Prod.mk.injEq] at parsed
      obtain ⟨⟨right, after⟩, second, rfl, rfl⟩ := parsed
      exact Or.inr ⟨next, more, right, rfl, second, rfl⟩
    · rename_i other
      cases parsed
      refine Or.inl ⟨rfl, rfl, fun head tail same => ?_⟩
      cases same
      exact Bool.eq_false_iff.mpr other

/-- An atom is a condition in parentheses or a comparison. -/
theorem parseAtom_cases {fuel : Nat} {tokens rest : List Token} {c : Condition}
    (parsed : parseAtom (fuel + 1) tokens = some (c, rest)) :
    (∃ more, tokens = .symbol "(" :: more ∧ parseEither fuel more = some (c, .symbol ")" :: rest)) ∨
      ∃ column symbol value op constant,
        tokens = .word column :: .symbol symbol :: value :: rest ∧
          comparison? symbol = some op ∧ constant? value = some constant ∧
            c = .compare column op constant := by
  simp only [parseAtom] at parsed
  -- The three shapes of the tokens: in parentheses, a comparison, or neither.
  split at parsed
  · rename_i more
    simp only [Option.bind_eq_bind, Option.bind_eq_some_iff] at parsed
    obtain ⟨⟨inner, middle⟩, first, parsed⟩ := parsed
    split at parsed
    · rename_i after closed
      cases parsed
      simp only at closed
      exact Or.inl ⟨more, rfl, closed ▸ first⟩
    · contradiction
  · rename_i column symbol value after
    simp only [Option.bind_eq_bind, Option.bind_eq_some_iff, Option.pure_def, Option.some.injEq,
      Prod.mk.injEq] at parsed
    obtain ⟨op, compares, constant, denotes, rfl, rfl⟩ := parsed
    exact Or.inr ⟨column, symbol, value, op, constant, rfl, compares, denotes, rfl⟩
  · contradiction

/-- The parser pays for every comparison with the tokens it consumes. -/
theorem cost_parse (fuel : Nat) :
    (∀ (tokens rest : List Token) (c : Condition),
        parseEither fuel tokens = some (c, rest) → atomCosts c.atoms + costs rest ≤ costs tokens) ∧
      (∀ (tokens rest : List Token) (c : Condition),
        parseBoth fuel tokens = some (c, rest) → atomCosts c.atoms + costs rest ≤ costs tokens) ∧
      ∀ (tokens rest : List Token) (c : Condition),
        parseAtom fuel tokens = some (c, rest) → atomCosts c.atoms + costs rest ≤ costs tokens := by
  -- The three parsers call each other, so one induction on the fuel covers all of them.
  induction fuel with
  | zero => refine ⟨?_, ?_, ?_⟩ <;> intro tokens rest c parsed <;> contradiction
  | succ fuel ih =>
    obtain ⟨either, both, atom⟩ := ih
    refine ⟨?_, ?_, ?_⟩
    · intro tokens rest c parsed
      obtain ⟨left, middle, first, ⟨rfl, rfl⟩ | ⟨next, more, right, rfl, second, rfl⟩⟩ :=
        parseEither_cases parsed
      · exact both _ _ _ first
      · -- A keyword between two parts is paid for by itself.
        have front := both _ _ _ first
        have back := either _ _ _ second
        simp only [costs_cons, Condition.atoms, atomCosts_append] at front ⊢
        omega
    · intro tokens rest c parsed
      obtain ⟨left, middle, first, ⟨rfl, rfl, _⟩ | ⟨next, more, right, rfl, second, rfl⟩⟩ :=
        parseBoth_cases parsed
      · exact atom _ _ _ first
      · have front := atom _ _ _ first
        have back := both _ _ _ second
        simp only [costs_cons, Condition.atoms, atomCosts_append] at front ⊢
        omega
    · intro tokens rest c parsed
      rcases parseAtom_cases parsed with
        ⟨more, rfl, inner⟩ | ⟨column, symbol, value, op, constant, rfl, _, denotes, rfl⟩
      · -- So are the parentheses.
        have inside := either _ _ _ inner
        simp only [costs_cons] at inside ⊢
        omega
      · have paid := cost_constant denotes
        have word : (Token.word column).cost = column.length := rfl
        have operator : (Token.symbol symbol).cost = 1 := rfl
        have only : atomCosts [⟨column, op, constant⟩] = column.length + 1 + constant.cost := by
          simp [atomCosts, Atom.cost]
        simp only [costs_cons, Condition.atoms, word, operator, only]
        omega

/-- A condition costs no more than the statement it is parsed from. -/
theorem cost_condition {text : String} {tokens : List Token} {c : Condition}
    (lexed : lex dialect text = some tokens) (parsed : parseCondition tokens = some c) :
    atomCosts c.atoms ≤ text.length := by
  -- A parsed condition has left no tokens over.
  simp only [parseCondition, Option.bind_eq_bind, Option.bind_eq_some_iff] at parsed
  obtain ⟨⟨condition, rest⟩, consumed, parsed⟩ := parsed
  split at parsed
  · cases parsed
    have paid := (cost_parse _).1 _ _ _ consumed
    have available := cost_lex lexed
    show atomCosts condition.atoms ≤ text.length
    omega
  · contradiction

/-- A comparison at the front of the tokens is the first one of the condition. -/
theorem atoms_parseBoth {fuel : Nat} {column symbol : String} {value : Token}
    {after rest : List Token} {c : Condition} {op : Comparison} {constant : Constant}
    (compares : comparison? symbol = some op) (denotes : constant? value = some constant)
    (parsed : parseBoth (fuel + 2) (.word column :: .symbol symbol :: value :: after) =
      some (c, rest)) :
    ∃ others, c.atoms = ⟨column, op, constant⟩ :: others ∧
      ∀ next more, after = next :: more → isKeyword "and" next = true →
        ∃ right, parseBoth (fuel + 1) more = some (right, rest) ∧ others = right.atoms := by
  obtain ⟨left, middle, first, joined⟩ := parseBoth_cases parsed
  -- Tokens that start with a word are no condition in parentheses.
  have comparison : left = .compare column op constant ∧ middle = after := by
    rcases parseAtom_cases first with
      ⟨more, same, _⟩ | ⟨column', symbol', value', op', constant', same, compares', denotes', rfl⟩
    · simp at same
    · cases same
      cases compares.symm.trans compares'
      cases denotes.symm.trans denotes'
      exact ⟨rfl, rfl⟩
  obtain ⟨rfl, rfl⟩ := comparison
  -- Without a second part there is no keyword behind the first one.
  rcases joined with ⟨rfl, rfl, other⟩ | ⟨next, more, right, rfl, second, rfl⟩
  · refine ⟨[], rfl, fun next more same keyword => ?_⟩
    rw [other next more same] at keyword
    contradiction
  · refine ⟨right.atoms, rfl, fun head tail same _ => ?_⟩
    cases same
    exact ⟨right, second, rfl⟩

/-- A condition is a conjunction, or one joined to a disjunction. -/
theorem parseCondition_cases {tokens : List Token} {c : Condition}
    (parsed : parseCondition tokens = some c) :
    ∃ left middle, parseBoth (3 * tokens.length + 2) tokens = some (left, middle) ∧
      (c = left ∨ ∃ right, c = .either left right) := by
  simp only [parseCondition, Option.bind_eq_bind, Option.bind_eq_some_iff] at parsed
  obtain ⟨⟨condition, rest⟩, consumed, parsed⟩ := parsed
  split at parsed
  · cases parsed
    obtain ⟨left, middle, both, joined⟩ := parseEither_cases consumed
    refine ⟨left, middle, both, ?_⟩
    -- How far the parser has come no longer matters once it has read everything.
    rcases joined with ⟨same, _⟩ | ⟨_, _, right, _, _, same⟩
    · exact Or.inl same
    · exact Or.inr ⟨right, same⟩
  · contradiction

/-- The first comparison of a condition stands at the front of its tokens. -/
theorem atoms_first {column symbol : String} {value : Token} {after : List Token} {c : Condition}
    {op : Comparison} {constant : Constant} (compares : comparison? symbol = some op)
    (denotes : constant? value = some constant)
    (parsed : parseCondition (.word column :: .symbol symbol :: value :: after) = some c) :
    ∃ others, c.atoms = ⟨column, op, constant⟩ :: others := by
  obtain ⟨left, middle, both, joined⟩ := parseCondition_cases parsed
  obtain ⟨others, atoms, _⟩ := atoms_parseBoth compares denotes both
  -- Whatever follows comes behind the first comparison.
  rcases joined with rfl | ⟨right, rfl⟩
  · exact ⟨others, atoms⟩
  · exact ⟨others ++ right.atoms, by rw [Condition.atoms, atoms, List.cons_append]⟩

/-- Two comparisons joined by a keyword at the front of the tokens are the first ones of the condition. -/
theorem atoms_second {column symbol column' symbol' : String} {value next value' : Token}
    {after : List Token} {c : Condition} {op op' : Comparison} {constant constant' : Constant}
    (compares : comparison? symbol = some op) (denotes : constant? value = some constant)
    (keyword : isKeyword "and" next = true)
    (compares' : comparison? symbol' = some op') (denotes' : constant? value' = some constant')
    (parsed : parseCondition (.word column :: .symbol symbol :: value :: next ::
      .word column' :: .symbol symbol' :: value' :: after) = some c) :
    ∃ others, c.atoms = ⟨column, op, constant⟩ :: ⟨column', op', constant'⟩ :: others := by
  obtain ⟨left, middle, both, joined⟩ := parseCondition_cases parsed
  obtain ⟨others, atoms, continues⟩ := atoms_parseBoth compares denotes both
  -- The keyword rules out that the condition ends before the second comparison.
  obtain ⟨right, second, rfl⟩ := continues next _ rfl keyword
  obtain ⟨more, atoms', _⟩ := atoms_parseBoth compares' denotes' second
  rw [atoms'] at atoms
  rcases joined with rfl | ⟨last, rfl⟩
  · exact ⟨more, atoms⟩
  · exact ⟨more ++ last.atoms, by rw [Condition.atoms, atoms]; rfl⟩

/-- The content of a literal, read from behind its opening quote. -/
def quoted : List Char → List Char
  | [] => []
  | '\'' :: '\'' :: rest => '\'' :: quoted rest
  | '\'' :: _ => []
  | c :: rest => c :: quoted rest

/-- Without escapes, a literal that is read to its end is a token with that content. -/
theorem finish_quoted (standard : dialect.backslashEscapes = false) {text : List Char} :
    ∀ {read : List Char} {tokens : List Token}, finish dialect (.literal read) text = some tokens →
      ∃ more, tokens = .literal (String.ofList (read ++ quoted text)) :: more := by
  have closes (read : List Char) : step dialect (.literal read) '\'' = some ([], .closing read) :=
    rfl
  fun_induction quoted text with
  | case1 =>
    intro read tokens finished
    simp [finish, feed, flush] at finished
  | case2 rest ih =>
    -- A doubled quote leaves one quote in the content.
    intro read tokens finished
    have doubled : step dialect (.closing read) '\'' = some ([], .literal (read ++ ['\''])) := rfl
    rw [finish_silent (closes read), finish_silent doubled] at finished
    obtain ⟨more, same⟩ := ih finished
    exact ⟨more, by rw [same, List.append_assoc, List.singleton_append]⟩
  | case3 rest alone =>
    intro read tokens finished
    rw [finish_silent (closes read), finish_closing read (head_ne_of_forall alone)] at finished
    obtain ⟨more, _, rfl⟩ := Option.map_eq_some_iff.mp finished
    exact ⟨more, by rw [List.append_nil]⟩
  | case4 c rest _ notQuote ih =>
    intro read tokens finished
    have kept : step dialect (.literal read) c = some ([], .literal (read ++ [c])) := by
      have ordinary : c ≠ '\'' := notQuote
      rw [step_eq_proceed (goesOn_of_finish rfl finished)]
      simp [proceed, ordinary, standard]
    rw [finish_silent kept] at finished
    obtain ⟨more, same⟩ := ih finished
    exact ⟨more, by rw [same, List.append_assoc, List.singleton_append]⟩

/-- Text with a quote in it is not the content of its literal, whatever is put before and behind it. -/
theorem quoted_ne {back added : List Char} (ends : added.head? ≠ some ' ') (text : List Char) :
    ∀ count : Nat, quoted (text ++ '\'' :: ' ' :: back) =
        List.replicate count '\'' ++ text ++ added →
      count = 0 ∧ '\'' ∉ text := by
  -- Every doubled quote leaves one quote less than the text has, and the count keeps the score.
  fun_induction quoted text with
  | case1 =>
    intro count same
    cases count with
    | zero => exact ⟨rfl, List.not_mem_nil⟩
    | succ count => simp [quoted, List.replicate_succ] at same
  | case2 rest ih =>
    intro count same
    have read : quoted ('\'' :: '\'' :: rest ++ '\'' :: ' ' :: back) =
        '\'' :: quoted (rest ++ '\'' :: ' ' :: back) := rfl
    rw [read, List.append_assoc, List.cons_append, replicate_append_cons, List.cons_append,
      replicate_append_cons] at same
    have more : List.replicate (count + 1) '\'' ++ rest ++ added =
        '\'' :: (List.replicate count '\'' ++ (rest ++ added)) := by
      rw [List.replicate_succ, List.cons_append, List.cons_append, List.append_assoc]
    obtain ⟨none_, _⟩ := ih (count + 1) ((List.cons.inj same).2.trans more.symm)
    omega
  | case3 rest alone =>
    intro count same
    cases rest with
    | nil =>
      -- The quote joins the closing one, and the literal goes on behind it.
      have read : quoted (['\''] ++ '\'' :: ' ' :: back) = '\'' :: ' ' :: quoted back := rfl
      rw [read, List.append_assoc, List.singleton_append, replicate_append_cons] at same
      have tail := (List.cons.inj same).2
      cases count with
      | zero =>
        have head : added.head? = some ' ' := by
          rw [List.replicate_zero, List.nil_append] at tail
          rw [← tail, List.head?_cons]
        exact absurd head ends
      | succ count =>
        rw [List.replicate_succ, List.cons_append] at tail
        exact absurd (List.cons.inj tail).1 (by decide)
    | cons c rest =>
      -- The quote ends the literal before anything is read.
      have another : c ≠ '\'' := fun same => alone rest (by rw [same])
      have read : quoted ('\'' :: c :: rest ++ '\'' :: ' ' :: back) = [] := by
        rw [List.cons_append, List.cons_append, quoted.eq_3]
        intro tail starts
        exact another (List.cons.inj starts).1
      rw [read, List.append_assoc, List.cons_append, replicate_append_cons] at same
      contradiction
  | case4 c rest _ notQuote ih =>
    intro count same
    have ordinary : c ≠ '\'' := notQuote
    have read : quoted (c :: rest ++ '\'' :: ' ' :: back) =
        c :: quoted (rest ++ '\'' :: ' ' :: back) := by
      rw [List.cons_append, quoted.eq_4 _ _ (fun _ first _ => ordinary first) ordinary]
    rw [read] at same
    cases count with
    | zero =>
      obtain ⟨_, absent⟩ := ih 0 (List.cons.inj same).2
      refine ⟨rfl, fun member => ?_⟩
      rcases List.mem_cons.mp member with first | later
      · exact ordinary first.symm
      · exact absent later
    | succ count =>
      rw [List.replicate_succ, List.cons_append, List.cons_append] at same
      exact absurd (List.cons.inj same).1 ordinary

/-- A text with the least character behind it is the next one in order. -/
theorem lt_next_iff {value other : List Char} (apart : other ≠ value)
    (apart' : other ≠ value ++ ['\x00']) : value < other ↔ value ++ ['\x00'] < other := by
  induction value generalizing other with
  | nil =>
    cases other with
    | nil => exact absurd rfl apart
    | cons c rest =>
      refine iff_of_true (List.nil_lt_cons c rest) (List.cons_lt_cons_iff.mpr ?_)
      by_cases least : c = '\x00'
      · -- Nothing lies between a text and the same text with the least character behind it.
        cases rest with
        | nil => exact absurd (by rw [least]; rfl) apart'
        | cons next rest => exact Or.inr ⟨least.symm, List.nil_lt_cons next rest⟩
      · refine Or.inl (Char.lt_def.mpr (UInt32.lt_iff_toNat_lt.mpr ?_))
        have positive : c.val.toNat ≠ 0 := fun zero => least (Char.ext (UInt32.toNat_inj.mp zero))
        exact Nat.pos_of_ne_zero positive
  | cons c rest ih =>
    cases other with
    | nil => exact iff_of_false (List.not_lt_nil _) (List.not_lt_nil _)
    | cons first tail =>
      rw [List.cons_append, List.cons_lt_cons_iff, List.cons_lt_cons_iff]
      refine or_congr_right (and_congr_right fun same => ?_)
      subst same
      exact ih (fun alike => apart (by rw [alike])) fun alike => apart' (by rw [alike, List.cons_append])

/-- Text that differs from two neighbours compares with both alike. -/
theorem compare_next {value other : String} (apart : other ≠ value)
    (apart' : other ≠ value ++ "\x00") :
    compare value other = compare (value ++ "\x00") other := by
  have below : value < other ↔ value ++ "\x00" < other := by
    have next : (value ++ "\x00").toList = value.toList ++ ['\x00'] := String.toList_append
    rw [String.lt_iff, String.lt_iff, next]
    refine lt_next_iff (fun same => apart (String.toList_inj.mp same)) fun same => apart' ?_
    exact String.toList_inj.mp (same.trans next.symm)
  show compareOfLessAndEq value other = compareOfLessAndEq (value ++ "\x00") other
  simp only [compareOfLessAndEq, below, if_neg (Ne.symm apart), if_neg (Ne.symm apart')]

/-- The rows a comparison selects. -/
def Atom.compile {ρ : Type} (columns : String → Option (Column ρ)) (atom : Atom) :
    Option (ρ → Bool) :=
  (Condition.compare atom.column atom.op atom.constant).compile columns

/-- A condition that tells two rows apart has a comparison that does. -/
theorem exists_atom_of_ne {ρ : Type} {columns : String → Option (Column ρ)} {c : Condition}
    {selects : ρ → Bool} (compiled : c.compile columns = some selects) {left right : ρ}
    (apart : selects left ≠ selects right) :
    ∃ atom ∈ c.atoms, ∃ test, atom.compile columns = some test ∧ test left ≠ test right := by
  -- A condition is a combination of its comparisons, so it cannot see what none of them sees.
  induction c generalizing selects with
  | compare column op constant =>
    exact ⟨⟨column, op, constant⟩, List.mem_singleton.mpr rfl, selects, compiled, apart⟩
  | both first second ihFirst ihSecond | either first second ihFirst ihSecond =>
    simp only [Condition.compile, Option.bind_eq_bind, Option.bind_eq_some_iff, Option.pure_def,
      Option.some.injEq] at compiled
    obtain ⟨front, compiledFirst, back, compiledSecond, rfl⟩ := compiled
    -- Two parts that agree on the rows would make the whole agree.
    by_cases same : front left = front right
    · have differ : back left ≠ back right := fun alike => apart (by simp only [same, alike])
      obtain ⟨atom, member, found⟩ := ihSecond compiledSecond differ
      exact ⟨atom, List.mem_append_right _ member, found⟩
    · obtain ⟨atom, member, found⟩ := ihFirst compiledFirst same
      exact ⟨atom, List.mem_append_left _ member, found⟩

/-- Two rows agree on a column. -/
def Column.Agree {ρ : Type} (left right : ρ) : Column ρ → Prop
  | .text read => read left = read right
  | .number read => read left = read right
  | .boolean read => read left = read right

/-- Two rows agree on every column but one. -/
def AgreeExcept {ρ : Type} (columns : String → Option (Column ρ)) (name : String)
    (left right : ρ) : Prop :=
  ∀ other column, columns other = some column → other ≠ name → column.Agree left right

variable {ρ : Type} {columns : String → Option (Column ρ)} {left right : ρ} {name : String}

/-- A comparison that tells apart rows which agree on the other columns is about the remaining one. -/
theorem column_of_ne {atom : Atom} {test : ρ → Bool} (compiled : atom.compile columns = some test)
    (others : AgreeExcept columns name left right)
    (apart : test left ≠ test right) : lower atom.column = name := by
  -- Suppose it is about another column: then it compares equal values.
  by_contra another
  refine apart ?_
  obtain ⟨column, op, constant⟩ := atom
  simp only [Atom.compile, Condition.compile] at compiled
  cases found : columns (lower column) with
  | none => simp [found] at compiled
  | some read =>
    have agree := others (lower column) read found another
    cases read <;> cases constant <;> simp only [found, Option.some.injEq, reduceCtorEq] at compiled
    all_goals
      subst compiled
      simp only [Column.Agree] at agree
      simp only [agree]

/--
A condition that selects a row, but not the one with the next text in a column, compares the column with
one of the two texts.
-/
theorem exists_pin {c : Condition} {selects : ρ → Bool}
    (compiled : c.compile columns = some selects) {read : ρ → String}
    (column : columns name = some (.text read))
    (others : AgreeExcept columns name left right)
    (next : read right = read left ++ "\x00") (apart : selects left ≠ selects right) :
    ∃ atom ∈ c.atoms, lower atom.column = name ∧
      (atom.constant = .text (read left) ∨ atom.constant = .text (read left ++ "\x00")) := by
  -- By the order of texts, no third text lies between a text and its successor.
  obtain ⟨atom, member, test, comparison, differ⟩ := exists_atom_of_ne compiled apart
  have named := column_of_ne comparison others differ
  refine ⟨atom, member, named, ?_⟩
  obtain ⟨written, op, constant⟩ := atom
  simp only at named
  simp only [Atom.compile, Condition.compile, named, column] at comparison
  cases constant with
  | number | boolean => simp at comparison
  | text value =>
    simp only [Option.some.injEq] at comparison
    subst comparison
    by_contra neither
    simp only [Constant.text.injEq, not_or] at neither
    exact differ (by simp only [next, compare_next neither.1 neither.2])

/-- One of the comparisons costs no more than all of them. -/
theorem cost_le_of_mem {atom : Atom} {atoms : List Atom} (member : atom ∈ atoms) :
    atom.cost ≤ atomCosts atoms := by
  -- Every comparison pays for itself only.
  induction atoms with
  | nil => contradiction
  | cons first rest ih =>
    rw [atomCosts_cons]
    rcases List.mem_cons.mp member with rfl | later
    · exact Nat.le_add_right _ _
    · exact Nat.le_trans (ih later) (Nat.le_add_left _ _)

/-- Two different comparisons together cost no more than all of them. -/
theorem cost_le_of_mem_of_ne {atom other : Atom} {atoms : List Atom} (member : atom ∈ atoms)
    (member' : other ∈ atoms) (apart : atom ≠ other) :
    atom.cost + other.cost ≤ atomCosts atoms := by
  -- Two different comparisons cannot stand at the same place.
  induction atoms with
  | nil => contradiction
  | cons first rest ih =>
    rw [atomCosts_cons]
    rcases List.mem_cons.mp member with rfl | later
    · rcases List.mem_cons.mp member' with rfl | later'
      · exact absurd rfl apart
      · exact Nat.add_le_add_left (cost_le_of_mem later') _
    · rcases List.mem_cons.mp member' with rfl | later'
      · rw [Nat.add_comm]
        exact Nat.add_le_add_left (cost_le_of_mem later) _
      · exact Nat.le_trans (ih later later') (Nat.le_add_left _ _)

/-- Without escapes, plain text is text without quotes in which the statement goes on. -/
theorem plain_iff (standard : dialect.backslashEscapes = false) (text : String) :
    Plain dialect text ↔ '\'' ∉ text.toList ∧ Uncut dialect text.toList := by
  constructor
  · intro plain
    exact ⟨fun member => (plain '\'' member).1 rfl, fun ends member => (plain nul member).2.2 ends rfl⟩
  · rintro ⟨absent, uncut⟩ c member
    refine ⟨fun same => absent (same ▸ member), fun escapes => ?_, fun ends same => ?_⟩
    · rw [standard] at escapes
      contradiction
    · exact uncut ends (same ▸ member)

/-- A spliced text that is read without quotes has not been cut. -/
theorem uncut_of_lex (standard : dialect.backslashEscapes = false) {front value back : String}
    {opened tokens : List Token} (before : feed dialect .gap front.toList = some (opened, .literal []))
    (lexed : lex dialect (front ++ value ++ back) = some tokens) (absent : '\'' ∉ value.toList) :
    Uncut dialect value.toList := by
  have escapes : dialect.backslashEscapes = true → BackslashesKept value.toList := by
    intro does
    rw [standard] at does
    contradiction
  rw [lex_eq_finish, String.toList_append, String.toList_append, List.append_assoc,
    finish_append before] at lexed
  obtain ⟨rest, finished, _⟩ := Option.map_eq_some_iff.mp lexed
  -- Without quotes the text is its own doubled form.
  exact uncut_of_finish escapes (by rw [doubled_of_not_mem absent]; exact finished)

/-- The literal a spliced text is read as. -/
def literalOf (value back : String) : String :=
  String.ofList (quoted (value.toList ++ back.toList))

/-- A spliced text is read as a literal, and whatever follows it. -/
theorem lex_spliced (standard : dialect.backslashEscapes = false) {front value back : String}
    {opened tokens : List Token} (before : feed dialect .gap front.toList = some (opened, .literal []))
    (lexed : lex dialect (front ++ value ++ back) = some tokens) :
    ∃ more, tokens = opened ++ .literal (literalOf value back) :: more := by
  -- The front is read first, and it ends inside the literal.
  rw [lex_eq_finish, String.toList_append, String.toList_append, List.append_assoc,
    finish_append before] at lexed
  obtain ⟨rest, finished, rfl⟩ := Option.map_eq_some_iff.mp lexed
  obtain ⟨more, rfl⟩ := finish_quoted standard finished
  exact ⟨more, rfl⟩

/-- A text with a quote in it is not read as itself, and not as its successor either. -/
theorem literalOf_ne {value back : String} (quote : '\'' ∈ value.toList) {rest : List Char}
    (closes : back.toList = '\'' :: ' ' :: rest) :
    literalOf value back ≠ value ∧ literalOf value back ≠ value ++ "\x00" := by
  -- What follows the value starts with a quote and a blank, as it does in every clause.
  have nothing (added : List Char) (ends : added.head? ≠ some ' ') :
      (literalOf value back).toList ≠ value.toList ++ added := by
    intro same
    rw [literalOf, String.toList_ofList, closes] at same
    exact (quoted_ne ends value.toList 0 same).2 quote
  constructor
  · intro same
    exact nothing [] (by simp) (by rw [same, List.append_nil])
  · intro same
    exact nothing ['\x00'] (by decide) (by rw [same, String.toList_append]; rfl)

/-- A comparison with a text or its successor costs at least its column and the text. -/
theorem cost_pin {pin : Atom} {value : String} (named : lower pin.column = name)
    (pinned : pin.constant = .text value ∨ pin.constant = .text (value ++ "\x00")) :
    name.length + value.length + 3 ≤ pin.cost := by
  -- A column name is as long in either case.
  have columnLength : pin.column.length = name.length := by
    rw [← length_lower pin.column, named]
  rcases pinned with same | same
  · simp only [Atom.cost, same, Constant.cost]
    omega
  · -- The successor is one character longer.
    have successor : (value ++ "\x00").length = value.length + 1 :=
      String.length_append value "\x00"
    simp only [Atom.cost, same, Constant.cost]
    omega

/-- A clause that selects rows is a condition that pays for its comparisons. -/
theorem exists_condition {text : String} {selects : ρ → Bool}
    (clause : whereClause dialect columns text = some selects) :
    ∃ tokens c, lex dialect text = some tokens ∧ parseCondition tokens = some c ∧
      c.compile columns = some selects ∧ atomCosts c.atoms ≤ text.length := by
  -- The three stages of reading a clause succeed one after the other.
  simp only [whereClause, Option.bind_eq_bind, Option.bind_eq_some_iff] at clause
  obtain ⟨tokens, lexed, c, parsed, compiled⟩ := clause
  exact ⟨tokens, c, lexed, parsed, compiled, cost_condition lexed parsed⟩

/-- A text without quotes in a clause that selects rows is plain. -/
theorem plain_of_clause (standard : dialect.backslashEscapes = false) {front value back : String}
    {opened : List Token} {selects : ρ → Bool}
    (before : feed dialect .gap front.toList = some (opened, .literal []))
    (clause : whereClause dialect columns (front ++ value ++ back) = some selects)
    (absent : '\'' ∉ value.toList) : Plain dialect value := by
  -- The clause has tokens, so the statement does not end within the text.
  obtain ⟨tokens, c, lexed, _⟩ := exists_condition clause
  exact (plain_iff standard value).mpr ⟨absent, uncut_of_lex standard before lexed absent⟩

/-- The comparison in front of a spliced text is the first one of the condition. -/
theorem exists_first (standard : dialect.backslashEscapes = false)
    {front value back column : String} {selects : ρ → Bool}
    (before : feed dialect .gap front.toList = some ([.word column, .symbol "="], .literal []))
    (clause : whereClause dialect columns (front ++ value ++ back) = some selects) :
    ∃ (c : Condition) (others : List Atom), c.compile columns = some selects ∧
      c.atoms = ⟨column, .eq, .text (literalOf value back)⟩ :: others ∧
      atomCosts c.atoms ≤ front.length + value.length + back.length := by
  -- The literal is the first token that the value decides.
  obtain ⟨tokens, c, lexed, parsed, compiled, paid⟩ := exists_condition clause
  obtain ⟨more, rfl⟩ := lex_spliced standard before lexed
  obtain ⟨others, atoms⟩ := atoms_first rfl rfl parsed
  rw [String.length_append, String.length_append] at paid
  exact ⟨c, others, compiled, atoms, paid⟩

/-- Behind a plain text, a clause goes on with known tokens. -/
theorem feed_between {front first middle : String} {opened between : List Token}
    (plain : Plain dialect first)
    (before : feed dialect .gap front.toList = some (opened, .literal []))
    (inside : feed dialect (.literal first.toList) middle.toList = some (between, .literal [])) :
    feed dialect .gap (front ++ first ++ middle).toList = some (opened ++ between, .literal []) := by
  -- The text is read as it is.
  simp [feed_append, before, feed_plain plain, inside]

/-- The comparisons in front of two spliced texts are the first ones of the condition. -/
theorem exists_second (standard : dialect.backslashEscapes = false)
    {front first middle second back column column' keyword : String} {selects : ρ → Bool}
    (plain : Plain dialect first) (joins : isKeyword "and" (.word keyword) = true)
    (before : feed dialect .gap front.toList = some ([.word column, .symbol "="], .literal []))
    (inside : feed dialect (.literal first.toList) middle.toList = some
      ([.literal first, .word keyword, .word column', .symbol "="], .literal []))
    (clause : whereClause dialect columns (front ++ first ++ middle ++ second ++ back) =
      some selects) :
    ∃ (c : Condition) (others : List Atom), c.compile columns = some selects ∧
      c.atoms = ⟨column, .eq, .text first⟩ ::
        ⟨column', .eq, .text (literalOf second back)⟩ :: others ∧
      atomCosts c.atoms ≤
        front.length + first.length + middle.length + second.length + back.length := by
  -- Nothing in front of the second value depends on it.
  obtain ⟨tokens, c, lexed, parsed, compiled, paid⟩ := exists_condition clause
  have opened := feed_between plain before inside
  obtain ⟨more, rfl⟩ := lex_spliced standard opened lexed
  obtain ⟨others, atoms⟩ := atoms_second rfl rfl joins rfl rfl parsed
  simp only [String.length_append] at paid
  exact ⟨c, others, compiled, atoms, paid⟩

section Quoted

variable {value back column : String} {rest : List Char} {others : List Atom}
  (quote : '\'' ∈ value.toList) (closes : back.toList = '\'' :: ' ' :: rest)

include quote closes

/-- A comparison with a text is another one than the comparison with its quoted literal. -/
theorem pin_later {pin : Atom} (member : pin ∈ ⟨column, .eq, .text (literalOf value back)⟩ :: others)
    (pinned : pin.constant = .text value ∨ pin.constant = .text (value ++ "\x00")) :
    pin ∈ others := by
  -- The literal is read as another text than the value, and the pin compares with the value.
  have apart := literalOf_ne quote closes
  rcases List.mem_cons.mp member with rfl | later
  · rcases pinned with same | same
    · exact absurd (Constant.text.inj same) apart.1
    · exact absurd (Constant.text.inj same) apart.2
  · exact later

/-- A comparison with a quoted literal and one with its text are two of the comparisons. -/
theorem cost_quoted (named : lower column = name) {pin : Atom}
    (member : pin ∈ ⟨column, .eq, .text (literalOf value back)⟩ :: others)
    (pinNamed : lower pin.column = name)
    (pinned : pin.constant = .text value ∨ pin.constant = .text (value ++ "\x00")) :
    2 * name.length + value.length + 6 ≤
      atomCosts (⟨column, .eq, .text (literalOf value back)⟩ :: others) := by
  -- The literal may be empty, but the pin holds the value as a whole.
  have columnLength : column.length = name.length := by
    rw [← length_lower column, named]
  have pinCost := cost_pin pinNamed pinned
  have paid := cost_le_of_mem (pin_later quote closes member pinned)
  simp only [atomCosts_cons, Atom.cost, Constant.cost] at paid pinCost ⊢
  omega

/-- With a comparison of another column there are three of the comparisons. -/
theorem cost_quoted_other (named : lower column = name) {pin other : Atom}
    (member : pin ∈ ⟨column, .eq, .text (literalOf value back)⟩ :: others)
    (pinNamed : lower pin.column = name)
    (pinned : pin.constant = .text value ∨ pin.constant = .text (value ++ "\x00"))
    (member' : other ∈ (⟨column, .eq, .text (literalOf value back)⟩ : Atom) :: others)
    (otherNamed : lower other.column ≠ name) :
    2 * name.length + value.length + 6 + other.cost ≤
      atomCosts (⟨column, .eq, .text (literalOf value back)⟩ :: others) := by
  have columnLength : column.length = name.length := by
    rw [← length_lower column, named]
  have pinCost := cost_pin pinNamed pinned
  -- Its column sets the third comparison apart from the other two.
  have otherLater : other ∈ others := by
    rcases List.mem_cons.mp member' with rfl | later
    · exact absurd named otherNamed
    · exact later
  have differ : pin ≠ other := fun same => otherNamed (same ▸ pinNamed)
  have paid := cost_le_of_mem_of_ne (pin_later quote closes member pinned) otherLater differ
  simp only [atomCosts_cons, Atom.cost, Constant.cost] at paid pinCost ⊢
  omega

end Quoted

section Clauses

variable (standard : dialect.backslashEscapes = false) {column : String} (named : lower column = name)
  {read : ρ → String} (isColumn : columns name = some (.text read)) {front back : String}
  (before : feed dialect .gap front.toList = some ([.word column, .symbol "="], .literal []))
  {rest : List Char} {selects : ρ → Bool}

include standard named isColumn before

/-- A short clause around one text selects the rows with that text only if the text has no quote. -/
theorem plain_of_one {value : String} (closes : back.toList = '\'' :: ' ' :: rest)
    (short : front.length + back.length < 2 * name.length + 6)
    (clause : whereClause dialect columns (front ++ value ++ back) = some selects)
    (agree : AgreeExcept columns name left right) (own : read left = value)
    (next : read right = value ++ "\x00") (apart : selects left ≠ selects right) :
    Plain dialect value := by
  refine plain_of_clause standard before clause fun quote => ?_
  obtain ⟨c, others, compiled, atoms, paid⟩ := exists_first standard before clause
  -- The rows with the value and with its successor are told apart, so one comparison pins the value.
  obtain ⟨pin, member, pinNamed, pinned⟩ :=
    exists_pin compiled isColumn agree (own.symm ▸ next) apart
  rw [atoms] at member paid
  rw [own] at pinned
  have needed := cost_quoted quote closes named member pinNamed pinned
  omega

/-- A longer clause is about its text and another column only if the text has no quote. -/
theorem plain_of_one_other {value other : String} (closes : back.toList = '\'' :: ' ' :: rest)
    (differs : other ≠ name)
    (short : front.length + back.length < 2 * name.length + other.length + 8)
    (clause : whereClause dialect columns (front ++ value ++ back) = some selects)
    (agree : AgreeExcept columns name left right) (own : read left = value)
    (next : read right = value ++ "\x00") (apart : selects left ≠ selects right)
    {left' right' : ρ} (agree' : AgreeExcept columns other left' right')
    (apart' : selects left' ≠ selects right') : Plain dialect value := by
  refine plain_of_clause standard before clause fun quote => ?_
  obtain ⟨c, others, compiled, atoms, paid⟩ := exists_first standard before clause
  obtain ⟨pin, member, pinNamed, pinned⟩ :=
    exists_pin compiled isColumn agree (own.symm ▸ next) apart
  -- The other two rows need a comparison of their own.
  obtain ⟨third, member', test, comparison, apartTest⟩ := exists_atom_of_ne compiled apart'
  have thirdNamed : lower third.column = other := column_of_ne comparison agree' apartTest
  rw [atoms] at member member' paid
  rw [own] at pinned
  have needed := cost_quoted_other quote closes named member pinNamed pinned member'
    (thirdNamed ▸ differs)
  have thirdCost : other.length + 2 ≤ third.cost := by
    have columnLength : third.column.length = other.length := by
      rw [← length_lower third.column, thirdNamed]
    have some_ : 1 ≤ third.constant.cost := by
      cases third.constant <;> simp [Constant.cost]
    simp only [Atom.cost]
    omega
  omega

/-- A short clause around two texts selects the rows with both only if neither text has a quote. -/
theorem plain_of_two {first second middle column' name' keyword : String} {rest' : List Char}
    {read' : ρ → String} {base : ρ}
    (named' : lower column' = name') (differs : name' ≠ name)
    (isColumn' : columns name' = some (.text read'))
    (joins : isKeyword "and" (.word keyword) = true)
    (closes : middle.toList = '\'' :: ' ' :: rest) (closes' : back.toList = '\'' :: ' ' :: rest')
    (inside : ∀ text : List Char, feed dialect (.literal text) middle.toList = some
      ([.literal (String.ofList text), .word keyword, .word column', .symbol "="], .literal []))
    (short : front.length + middle.length + back.length < name.length + name'.length +
      min name.length name'.length + 9)
    (clause : whereClause dialect columns (front ++ first ++ middle ++ second ++ back) =
      some selects)
    (own : read base = first) (own' : read' base = second)
    (agree : AgreeExcept columns name base left) (next : read left = first ++ "\x00")
    (apart : selects base ≠ selects left)
    (agree' : AgreeExcept columns name' base right) (next' : read' right = second ++ "\x00")
    (apart' : selects base ≠ selects right) : Plain dialect first ∧ Plain dialect second := by
  -- Whichever text is quoted, its literal and the two texts cost too much together.
  have plain : Plain dialect first := by
    -- Behind a quoted first text, the rest of the clause is unknown.
    have joined : front ++ first ++ middle ++ second ++ back =
        front ++ first ++ (middle ++ second ++ back) := by
      simp only [String.append_assoc]
    rw [joined] at clause
    refine plain_of_clause standard before clause fun quote => ?_
    obtain ⟨c, others, compiled, atoms, paid⟩ := exists_first standard before clause
    obtain ⟨pin, member, pinNamed, pinned⟩ :=
      exists_pin compiled isColumn agree (own.symm ▸ next) apart
    obtain ⟨pin', member', pinNamed', pinned'⟩ :=
      exists_pin compiled isColumn' agree' (own'.symm ▸ next') apart'
    rw [atoms] at member member' paid
    rw [own] at pinned
    rw [own'] at pinned'
    have behind : (middle ++ second ++ back).toList =
        '\'' :: ' ' :: (rest ++ second.toList ++ back.toList) := by
      simp [closes]
    have needed := cost_quoted_other quote behind named member pinNamed pinned member'
      (pinNamed' ▸ differs)
    have needed' := cost_pin pinNamed' pinned'
    simp only [String.length_append] at paid
    omega
  -- The first text is plain by now, so the tokens in front of the second one are known.
  have read_ := inside first.toList
  rw [String.ofList_toList] at read_
  have opened := feed_between plain before read_
  refine ⟨plain, plain_of_clause standard opened clause fun quote => ?_⟩
  obtain ⟨c, others, compiled, atoms, paid⟩ :=
    exists_second standard plain joins before read_ clause
  obtain ⟨pin, member, pinNamed, pinned⟩ :=
    exists_pin compiled isColumn' agree' (own'.symm ▸ next') apart'
  rw [atoms] at member paid
  rw [own'] at pinned
  -- The first comparison is about the other column.
  have later : pin ∈ ⟨column', .eq, .text (literalOf second back)⟩ :: others := by
    rcases List.mem_cons.mp member with rfl | later
    · exact absurd (named.symm.trans pinNamed) differs.symm
    · exact later
  have needed := cost_quoted quote closes' named' later pinNamed pinned
  have columnLength : column.length = name.length := by
    rw [← length_lower column, named]
  rw [atomCosts_cons] at paid
  simp only [Atom.cost, Constant.cost] at paid
  omega

end Clauses

end Sql
