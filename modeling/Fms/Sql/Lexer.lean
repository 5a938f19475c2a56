import Mathlib.Data.List.Nodup

/-! Standard SQL lexing: words, numbers, operators, quoted string literals, and comments. -/

namespace Sql

/-- The choices between database products that change how a statement is split into tokens. -/
structure Dialect where
  /-- A backslash inside a string literal escapes the next character. -/
  backslashEscapes : Bool
  /-- A statement is handed over as a text that ends at its first null character. -/
  endsAtNul : Bool
  deriving DecidableEq, Repr

/-- The lexical elements of a statement. -/
inductive Token where
  /-- A keyword or an identifier, in the spelling of the statement. -/
  | word (text : String)
  /-- An unsigned integer. -/
  | number (value : Nat)
  /-- A string literal, with its quotes removed and its escapes undone. -/
  | literal (text : String)
  /-- An operator or a punctuation mark. -/
  | symbol (text : String)
  deriving DecidableEq, Repr

/-- What the lexer has read of the token it is in. -/
inductive Mode where
  /-- Between two tokens. -/
  | gap
  /-- Inside a word. -/
  | word (read : List Char)
  /-- Inside a number. -/
  | number (read : Nat)
  /-- Inside a string literal. -/
  | literal (read : List Char)
  /-- Inside a string literal, after a backslash that escapes. -/
  | escape (read : List Char)
  /-- After a quote that ends the literal unless another quote follows. -/
  | closing (read : List Char)
  /-- After the first character of an operator that may have two. -/
  | operator (first : Char)
  /-- After a dash that starts a comment if another dash follows. -/
  | dash
  /-- Inside a comment, which ends with its line. -/
  | comment
  /-- Behind the end of the statement. -/
  | ended
  deriving DecidableEq, Repr

/-- Characters that separate tokens and mean nothing else. -/
def isSpace (c : Char) : Bool :=
  c = ' ' || c = '\t' || c = '\n' || c = '\r'

/-- Characters a word may start with. -/
def startsWord (c : Char) : Bool :=
  c.isAlpha || c = '_'

/-- Characters a word may continue with. -/
def continuesWord (c : Char) : Bool :=
  startsWord c || c.isDigit

/-- The decimal value of a digit. -/
def digitValue (c : Char) : Nat :=
  c.toNat - '0'.toNat

/-- The character that ends a text for a product that does not take its length. -/
def nul : Char :=
  '\x00'

/-- Read the first character of a token, or a token of one character. -/
def start (c : Char) : Option (List Token × Mode) :=
  if isSpace c then some ([], .gap)
  else if c.isDigit then some ([], .number (digitValue c))
  else if startsWord c then some ([], .word [c])
  else if c = '\'' then some ([], .literal [])
  else if c = '!' || c = '<' || c = '>' then some ([], .operator c)
  else if c = '-' then some ([], .dash)
  else if c = '=' || c = '(' || c = ')' || c = ',' || c = ';' || c = '?' || c = '*' then
    some ([.symbol (String.ofList [c])], .gap)
  else none

/-- The token a mode has completed when the text ends or the next token starts. -/
@[grind =]
def flush : Mode → Option (List Token)
  | .gap => some []
  | .word read => some [.word (String.ofList read)]
  | .number read => some [.number read]
  | .closing read => some [.literal (String.ofList read)]
  | .operator first => if first = '!' then none else some [.symbol (String.ofList [first])]
  | .dash => some [.symbol "-"]
  | .comment => some []
  | .ended => some []
  -- An unterminated literal is no token.
  | .literal _ | .escape _ => none

/-- End the current token and read the first character of the next one. -/
def restart (mode : Mode) (c : Char) : Option (List Token × Mode) := do
  let ended ← flush mode
  let (started, next) ← start c
  return (ended ++ started, next)

/-- What an escape stands for; before the wildcards of patterns the backslash is kept. -/
def unescape (c : Char) : List Char :=
  if c = 'n' then ['\n'] else if c = 't' then ['\t'] else if c = 'r' then ['\r']
  else if c = '0' then [Char.ofNat 0] else if c = 'b' then [Char.ofNat 8]
  else if c = 'Z' then [Char.ofNat 26] else if c = '%' || c = '_' then ['\\', c] else [c]

/-- Read one character of the statement. -/
@[grind =]
def proceed (dialect : Dialect) : Mode → Char → Option (List Token × Mode)
  | .gap, c => start c
  | .word read, c => if continuesWord c then some ([], .word (read ++ [c])) else restart (.word read) c
  | .number read, c =>
    if c.isDigit then some ([], .number (10 * read + digitValue c))
    else if continuesWord c then none
    else restart (.number read) c
  | .literal read, c =>
    if c = '\'' then some ([], .closing read)
    else if dialect.backslashEscapes && c = '\\' then some ([], .escape read)
    else some ([], .literal (read ++ [c]))
  | .escape read, c => some ([], .literal (read ++ unescape c))
  -- A doubled quote stands for one quote.
  | .closing read, c =>
    if c = '\'' then some ([], .literal (read ++ ['\''])) else restart (.closing read) c
  | .operator first, c =>
    if c = '=' then some ([.symbol (String.ofList [first, c])], .gap) else restart (.operator first) c
  | .dash, c => if c = '-' then some ([], .comment) else restart .dash c
  | .comment, c => if c = '\n' then some ([], .gap) else some ([], .comment)
  | .ended, _ => some ([], .ended)

/-- Read one character, which may be the end of the statement. -/
def step (dialect : Dialect) (mode : Mode) (c : Char) : Option (List Token × Mode) :=
  if c = nul ∧ dialect.endsAtNul = true then (flush mode).map fun completed => (completed, .ended)
  else proceed dialect mode c

/-- Every character but the end of the statement belongs to it. -/
theorem step_eq_proceed {dialect : Dialect} {c : Char} (goesOn : dialect.endsAtNul = true → c ≠ nul)
    (mode : Mode) : step dialect mode c = proceed dialect mode c :=
  if_neg fun ⟨same, ends⟩ => goesOn ends same

/-- The statement does not end within a text. -/
def Uncut (dialect : Dialect) (text : List Char) : Prop :=
  dialect.endsAtNul = true → nul ∉ text

/-- A text goes on exactly when its first character and the rest do. -/
theorem uncut_cons_iff {dialect : Dialect} {c : Char} {rest : List Char} :
    Uncut dialect (c :: rest) ↔ (dialect.endsAtNul = true → c ≠ nul) ∧ Uncut dialect rest := by
  simp only [Uncut, List.mem_cons, not_or, ne_comm (a := c)]
  exact forall_and

/-- Read characters one by one, collecting the tokens they complete. -/
@[grind =]
def feed (dialect : Dialect) (mode : Mode) : List Char → Option (List Token × Mode)
  | [] => some ([], mode)
  | c :: rest => do
    let (emitted, next) ← step dialect mode c
    let (more, last) ← feed dialect next rest
    return (emitted ++ more, last)

/-- The tokens of a statement, when it can be split into tokens at all. -/
def lex (dialect : Dialect) (text : String) : Option (List Token) := do
  let (tokens, mode) ← feed dialect .gap text.toList
  let last ← flush mode
  return tokens ++ last

/-- A character that completes no token leaves the tokens of the rest. -/
theorem feed_silent {dialect : Dialect} {mode next : Mode} {c : Char}
    (stepped : step dialect mode c = some ([], next)) (rest : List Char) :
    feed dialect mode (c :: rest) = feed dialect next rest := by
  -- Nothing is put in front of what the rest completes.
  cases fed : feed dialect next rest <;> simp [feed, stepped, fed]

/-- Reading a text in two parts is reading the parts in order. -/
theorem feed_append (dialect : Dialect) (mode : Mode) (front back : List Char) :
    feed dialect mode (front ++ back) = (do
      let (first, middle) ← feed dialect mode front
      let (second, last) ← feed dialect middle back
      return (first ++ second, last)) := by
  -- The mode changes with every character, so it stays quantified over.
  induction front generalizing mode with
  | nil =>
    cases fed : feed dialect mode back <;> simp [feed, fed]
  | cons c rest ih =>
    simp only [List.cons_append, feed, ih]
    cases step dialect mode c with
    | none => rfl
    | some stepped =>
      cases head : feed dialect stepped.2 rest with
      | none => simp [head]
      | some first =>
        cases fed : feed dialect first.2 back <;> simp [head, fed]

/-- Text that a literal can hold as it is, without escaping. -/
def Plain (dialect : Dialect) (text : String) : Prop :=
  ∀ c ∈ text.toList, c ≠ '\'' ∧ (dialect.backslashEscapes = true → c ≠ '\\') ∧
    (dialect.endsAtNul = true → c ≠ nul)

instance (dialect : Dialect) (text : String) : Decidable (Plain dialect text) :=
  List.decidableBAll (fun c => c ≠ '\'' ∧ (dialect.backslashEscapes = true → c ≠ '\\') ∧
    (dialect.endsAtNul = true → c ≠ nul)) text.toList

/-- Plain text inside a literal is read unchanged. -/
theorem feed_plain {dialect : Dialect} {text : String} (plain : Plain dialect text)
    (read : List Char) :
    feed dialect (.literal read) text.toList = some ([], .literal (read ++ text.toList)) := by
  -- The induction is on the characters, with the content read so far generalized.
  unfold Plain at plain
  generalize text.toList = cs at plain
  induction cs generalizing read with
  | nil => simp [feed]
  | cons c rest ih =>
    -- The character is neither the quote nor an escape, nor does the statement end with it.
    obtain ⟨notQuote, notEscape, goesOn⟩ := plain c (by simp)
    have kept : step dialect (.literal read) c = some ([], .literal (read ++ [c])) := by
      rw [step_eq_proceed goesOn]
      cases escapes : dialect.backslashEscapes
      · simp [proceed, notQuote, escapes]
      · simp [proceed, notQuote, notEscape escapes]
    have tail := ih (read ++ [c]) fun other member => plain other (by simp [member])
    simp [feed, kept, tail]

/-- Inside a literal, a text is read as its content, and the literal goes on. -/
def Spells (dialect : Dialect) (text content : String) : Prop :=
  ∀ read : List Char,
    feed dialect (.literal read) text.toList = some ([], .literal (read ++ content.toList))

/-- Plain text spells itself. -/
theorem Plain.spells {dialect : Dialect} {text : String} (plain : Plain dialect text) :
    Spells dialect text text :=
  feed_plain plain

/-- A digit does not end a statement. -/
theorem digit_ne_nul {c : Char} (digit : c.isDigit = true) : c ≠ nul := by
  rintro rfl
  exact absurd digit (by decide)

/-- Digits inside a number are read in the decimal system. -/
theorem feed_digits (dialect : Dialect) {digits : List Char}
    (all : ∀ c ∈ digits, c.isDigit = true) (read : Nat) :
    feed dialect (.number read) digits = some ([], .number (Nat.ofDigitChars 10 digits read)) := by
  -- Each digit shifts what has been read by one place.
  induction digits generalizing read with
  | nil => simp [feed]
  | cons c rest ih =>
    have head := all c (by simp)
    have tail := ih (fun other member => all other (by simp [member])) (10 * read + digitValue c)
    have kept : step dialect (.number read) c = some ([], .number (10 * read + digitValue c)) := by
      rw [step_eq_proceed fun _ => digit_ne_nul head, proceed, if_pos head]
    rw [feed_silent kept, tail, Nat.ofDigitChars_cons]
    rfl

/-- The decimal text of a number is read back as that number. -/
theorem feed_decimal (dialect : Dialect) (n : Nat) :
    feed dialect .gap (toString n).toList = some ([], .number n) := by
  have all : ∀ c ∈ Nat.toDigits 10 n, c.isDigit = true :=
    fun c member => Nat.isDigit_of_mem_toDigits (by decide) (by decide) member
  have value := Nat.ofDigitChars_ten_toDigits (n := n)
  simp only [Nat.toString_eq_repr, Nat.toList_repr]
  -- The first digit opens the number, and the rest continue it.
  cases digits : Nat.toDigits 10 n with
  | nil => exact absurd digits Nat.toDigits_ne_nil
  | cons c rest =>
    rw [digits] at all value
    have head := all c (by simp)
    have opens : step dialect .gap c = some ([], .number (digitValue c)) := by
      have visible : isSpace c = false := by
        simp only [Char.isDigit, Bool.and_eq_true, decide_eq_true_eq] at head
        simp only [isSpace, Bool.or_eq_false_iff, decide_eq_false_iff_not]
        refine ⟨⟨⟨?_, ?_⟩, ?_⟩, ?_⟩ <;> rintro rfl <;> exact absurd head (by decide)
      rw [step_eq_proceed fun _ => digit_ne_nul head]
      simp [proceed, start, visible, head]
    have others : ∀ other ∈ rest, other.isDigit = true :=
      fun other member => all other (by simp [member])
    have tail := feed_digits dialect others (digitValue c)
    have whole : Nat.ofDigitChars 10 rest (digitValue c) = n := by
      rw [Nat.ofDigitChars_cons, Nat.mul_zero, Nat.zero_add] at value
      exact value
    rw [feed_silent opens, tail, whole]

/-- A statement that ends in a number lexes to the tokens before it and the number. -/
theorem lex_number {dialect : Dialect} (front : String) (opened : List Token) (n : Nat)
    (before : feed dialect .gap front.toList = some (opened, .gap)) :
    lex dialect (front ++ toString n) = some (opened ++ [.number n]) := by
  -- The number is still open where the text ends, so the end completes it.
  have digits := feed_decimal dialect n
  simp only [lex, String.toList_append, feed_append, before, digits, flush, Option.pure_def,
    Option.bind_eq_bind, Option.bind_some, List.append_nil]

/-- A statement around one spelled literal lexes as if the literal were a single token. -/
theorem lex_one_literal {dialect : Dialect} {text content : String}
    (spelled : Spells dialect text content)
    (front back : String) (opened : List Token) (closed : List Char → List Token)
    (before : feed dialect .gap front.toList = some (opened, .literal []))
    (after : ∀ read, feed dialect (.literal read) back.toList = some (closed read, .gap)) :
    lex dialect (front ++ text ++ back) = some (opened ++ closed content.toList) := by
  -- The literal is read from the mode the front leaves, and left in the same one.
  simp [lex, feed_append, before, spelled [], after, flush]

/-- A statement around two spelled literals lexes as if each literal were a single token. -/
theorem lex_two_literals {dialect : Dialect} {left left' right right' : String}
    (spelledLeft : Spells dialect left left') (spelledRight : Spells dialect right right')
    (front middle back : String) (opened : List Token) (between closed : List Char → List Token)
    (before : feed dialect .gap front.toList = some (opened, .literal []))
    (inside : ∀ read, feed dialect (.literal read) middle.toList = some (between read, .literal []))
    (after : ∀ read, feed dialect (.literal read) back.toList = some (closed read, .gap)) :
    lex dialect (front ++ left ++ middle ++ right ++ back) =
      some (opened ++ between left'.toList ++ closed right'.toList) := by
  -- Each part of the statement is read from the mode in which the part before it ends.
  simp [lex, feed_append, before, spelledLeft [], spelledRight [], inside, after, flush]

end Sql
