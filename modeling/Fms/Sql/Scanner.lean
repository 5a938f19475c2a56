import Fms.Sql.Lexer

/-! The scanner of PostgreSQL: where a statement is quoted or commented out, and which parameters it has. -/

namespace Sql

/-- Characters that begin an identifier; beyond ASCII these are all. -/
def beginsName (c : Char) : Bool :=
  startsWord c || decide (128 ≤ c.toNat)

/-- Characters that go on with an identifier. -/
def continuesName (c : Char) : Bool :=
  beginsName c || c.isDigit || c = '$'

/-- The ends of a line. -/
def isNewline (c : Char) : Bool :=
  c = '\n' || c = '\r'

/-- Where the scanner stands in a statement. -/
inductive Place where
  /-- Between two tokens, or behind a token that the next character cannot change. -/
  | gap
  /-- In an identifier or a keyword. -/
  | word
  /-- Behind an `e` that begins a word, and that makes a literal right behind it one with escapes. -/
  | mark
  /-- In a number. -/
  | number
  /-- Behind a dash, which begins a comment if another dash follows. -/
  | dash
  /-- Behind a slash, which begins a comment if a star follows. -/
  | slash
  /-- Behind a dollar sign and what may be the tag of a quotation. -/
  | dollar (tag : List Char)
  /-- In a literal. -/
  | literal
  /-- In a literal with escapes. -/
  | escaped
  /-- Behind a backslash that escapes. -/
  | backslash
  /-- Behind the quote that ends a literal with escapes unless another quote follows. -/
  | closed
  /-- Behind a literal with escapes and blanks; behind a new line, another quote continues it. -/
  | apart (newline : Bool)
  /-- Behind a literal with escapes, blanks and a dash. -/
  | apartDash
  /-- In a comment behind a literal with escapes. -/
  | remark
  /-- In a quoted identifier. -/
  | identifier
  /-- In a quotation between two tags, behind a dollar sign and what may be the closing tag. -/
  | body (tag : List Char) (read : Option (List Char))
  /-- In a comment that ends with its line. -/
  | lineComment
  /-- In a comment inside as many others, behind a character that may begin or end one. -/
  | blockComment (depth : Nat) (half : Option Char)
  /-- Behind the end of the statement. -/
  | ended
  deriving DecidableEq, Repr

namespace Place

/-- Where the first character of a token leads. -/
def first (c : Char) : Place :=
  if c = '\'' then .literal
  else if c = '"' then .identifier
  else if c = '$' then .dollar []
  else if c = '-' then .dash
  else if c = '/' then .slash
  else if c = 'e' || c = 'E' then .mark
  else if beginsName c then .word
  else if c.isDigit then .number
  else .gap

/-- Where a character leads behind a literal with escapes. -/
def behind (newline : Bool) (c : Char) : Place :=
  if isNewline c then .apart true
  else if isSpace c || c = '\x0b' || c = '\x0c' then .apart newline
  else if c = '-' then .apartDash
  else first c

/-- Where a character leads that does not end the statement. -/
def proceed : Place → Char → Place
  | .gap, c => first c
  | .word, c => if continuesName c then .word else first c
  | .mark, c => if c = '\'' then .escaped else if continuesName c then .word else first c
  | .number, c => if c.isDigit || beginsName c then .number else first c
  | .dash, c => if c = '-' then .lineComment else first c
  | .slash, c => if c = '*' then .blockComment 0 none else first c
  | .dollar tag, c =>
    if c = '$' then .body tag none
    else if beginsName c || (c.isDigit && !tag.isEmpty) then .dollar (tag ++ [c])
    else first c
  -- A doubled quote is a literal right behind another, which leads to the same places.
  | .literal, c => if c = '\'' then .gap else .literal
  | .escaped, c => if c = '\'' then .closed else if c = '\\' then .backslash else .escaped
  | .backslash, _ => .escaped
  | .closed, c => if c = '\'' then .escaped else behind false c
  | .apart newline, c => if c = '\'' ∧ newline = true then .escaped else behind newline c
  | .apartDash, c => if c = '-' then .remark else first c
  | .remark, c => if isNewline c then .apart true else .remark
  | .identifier, c => if c = '"' then .gap else .identifier
  | .body tag none, c => if c = '$' then .body tag (some []) else .body tag none
  | .body tag (some read), c =>
    if c = '$' then if read = tag then .gap else .body tag (some [])
    else if beginsName c || (c.isDigit && !read.isEmpty) then .body tag (some (read ++ [c]))
    else .body tag none
  | .lineComment, c => if isNewline c then .gap else .lineComment
  | .blockComment depth half, c =>
    if half = some '/' ∧ c = '*' then .blockComment (depth + 1) none
    else if half = some '*' ∧ c = '/' then
      match depth with
      | 0 => .gap
      | depth + 1 => .blockComment depth none
    else .blockComment depth (if c = '/' || c = '*' then some c else none)
  | .ended, _ => .ended

/-- Where a character leads; a null character ends the statement. -/
def next (place : Place) (c : Char) : Place :=
  if c = nul then .ended else place.proceed c

/-- Outside of literals, quoted identifiers and comments. -/
def isCode : Place → Bool
  | .gap | .word | .mark | .number | .dash | .slash | .dollar _ | .closed | .apart _ | .apartDash => true
  | .literal | .escaped | .backslash | .remark | .identifier | .body _ _ | .lineComment | .blockComment _ _
  | .ended => false

/-- Where a dollar sign begins a token of its own. -/
def opens : Place → Bool
  | .gap | .number | .dash | .slash | .closed | .apart _ | .apartDash => true
  -- It goes on with a word, and behind another one it ends a tag.
  | .word | .mark | .dollar _ => false
  | .literal | .escaped | .backslash | .remark | .identifier | .body _ _ | .lineComment | .blockComment _ _
  | .ended => false

/-- Where the scanner stands behind a text. -/
def after (front : List Char) : Place :=
  front.foldl next .gap

/-- A question mark in code is a token of its own. -/
theorem next_placeholder {place : Place} (code : place.isCode = true) : place.next '?' = .gap := by
  -- No token of code goes on with a question mark.
  cases place with
  | gap | word | mark | number | dash | slash | dollar | closed | apartDash => rfl
  | apart newline => cases newline <;> rfl
  | literal | escaped | backslash | remark | identifier | body | lineComment | blockComment | ended =>
    exact absurd code Bool.false_ne_true

/-- A token begins outside of literals, quoted identifiers and comments. -/
theorem isCode_of_opens {place : Place} (opens : place.opens = true) : place.isCode = true := by
  cases place with
  | gap | number | dash | slash | closed | apart | apartDash => rfl
  | word | mark | dollar | literal | escaped | backslash | remark | identifier | body | lineComment | blockComment
  | ended => exact absurd opens Bool.false_ne_true

end Place

/-- A statement as it is executed: its characters, and the parameters between them. -/
inductive Item where
  | char (c : Char)
  /-- The parameter with a number. -/
  | parameter (k : Nat)
  deriving DecidableEq, Repr

/-- An item in the spelling of PostgreSQL. -/
def Item.spelling : Item → List Char
  | .char c => [c]
  | .parameter k => '$' :: (toString k).toList

/-- Items in the spelling of PostgreSQL. -/
def spelling (items : List Item) : List Char :=
  items.flatMap Item.spelling

/-- The items of a statement whose parameters are its question marks in code, counted from some number on. -/
def items : Place → Nat → List Char → List Item
  | _, _, [] => []
  | place, k, c :: rest =>
    if c = '?' ∧ place.isCode = true then .parameter k :: items (place.next c) (k + 1) rest
    else .char c :: items (place.next c) k rest

/-- The first character of a text, if it has one with a property. -/
def leads (such : Char → Bool) (text : List Char) : Bool :=
  text.head?.any such

/--
The items that PostgreSQL reads in a text, given the digits of a parameter that are already read.

A parameter that runs on into a word is refused.
-/
@[grind =]
def scan : Place → Option Nat → List Char → Option (List Item)
  | _, pending, [] => some (pending.toList.map .parameter)
  | place, pending, c :: rest =>
    if pending.isSome = true ∧ c.isDigit = true then
      scan place (pending.map fun k => 10 * k + digitValue c) rest
    else if pending.isSome = true ∧ beginsName c = true then none
    else
      -- A dollar sign in front of a digit begins a parameter, unless it belongs to a word or a tag.
      if c = '$' ∧ place.opens = true ∧ leads Char.isDigit rest = true then
        (scan .gap (some 0) rest).map (pending.toList.map Item.parameter ++ ·)
      else (scan (place.next c) none rest).map (pending.toList.map Item.parameter ++ Item.char c :: ·)

/-- At every occurrence of a character, something holds of where it stands and of what follows. -/
def AtEach (c : Char) (holds : Place → List Char → Prop) (place : Place) (text : List Char) : Prop :=
  ∀ front back, text = front ++ c :: back → holds (front.foldl Place.next place) back

/-- No question mark of a text is quoted or commented out. -/
def NoneHidden : Place → List Char → Prop :=
  AtEach '?' fun reached _ => reached.isCode = true

/--
Every question mark of a text is a token of its own, also as a numbered parameter, and no other parameter is one.
-/
structure Separated (place : Place) (text : List Char) : Prop where
  questions : AtEach '?' (fun reached back =>
    reached.opens = true ∧ leads (fun c => c.isDigit || beginsName c) back = false) place text
  dollars : AtEach '$' (fun reached back => reached.opens = true → leads Char.isDigit back = false) place text

variable {holds : Place → List Char → Prop} {place : Place}

/-- An empty text has no occurrence of a character. -/
theorem atEach_nil (c : Char) : AtEach c holds place [] := by
  intro front back split
  simp at split

/-- What holds at every occurrence of a character holds at the first character and behind it. -/
theorem atEach_cons {c d : Char} {rest : List Char} :
    AtEach d holds place (c :: rest) ↔ (c = d → holds place rest) ∧ AtEach d holds (place.next c) rest := by
  -- What stands in front of a later occurrence begins with the same first character.
  refine ⟨fun all => ⟨?_, fun front back split => ?_⟩, fun ⟨here, others⟩ front back split => ?_⟩
  · rintro rfl
    exact all [] rest rfl
  · exact all (c :: front) back (by rw [split]; rfl)
  · cases front with
    | nil =>
      obtain ⟨rfl, rfl⟩ : c = d ∧ rest = back := by simpa using split
      exact here rfl
    | cons other front =>
      obtain ⟨rfl, rfl⟩ : c = other ∧ rest = front ++ d :: back := by simpa using split
      exact others front back rfl

/-- A text is separated if its first character is, and what stands behind it. -/
theorem separated_cons {c : Char} {rest : List Char} :
    Separated place (c :: rest) ↔
      (c = '?' → place.opens = true ∧ leads (fun c => c.isDigit || beginsName c) rest = false) ∧
        (c = '$' → place.opens = true → leads Char.isDigit rest = false) ∧ Separated (place.next c) rest := by
  -- Both conditions are about the occurrences of one character.
  refine ⟨fun ⟨questions, dollars⟩ => ?_, fun ⟨question, dollar, ⟨questions, dollars⟩⟩ => ⟨?_, ?_⟩⟩
  · have questions := atEach_cons.mp questions
    have dollars := atEach_cons.mp dollars
    exact ⟨questions.1, dollars.1, ⟨questions.2, dollars.2⟩⟩
  · exact atEach_cons.mpr ⟨question, questions⟩
  · exact atEach_cons.mpr ⟨dollar, dollars⟩

/-- Separated question marks stand in code. -/
theorem Separated.noneHidden {text : List Char} (separated : Separated place text) :
    NoneHidden place text :=
  fun front back split => Place.isCode_of_opens (separated.questions front back split).1

/-! ### Reading parameters -/

/-- Without a parameter that has been begun, a dollar sign begins one or a character is read as it is. -/
theorem scan_none (c : Char) (text : List Char) :
    scan place none (c :: text) =
      if c = '$' ∧ place.opens = true ∧ leads Char.isDigit text = true then scan .gap (some 0) text
      else (scan (place.next c) none text).map (.char c :: ·) := by
  rw [scan, if_neg (fun both => Bool.false_ne_true both.1), if_neg (fun both => Bool.false_ne_true both.1)]
  -- No number is put in front.
  show (if c = '$' ∧ place.opens = true ∧ leads Char.isDigit text = true then
    (scan .gap (some 0) text).map id else _) = _
  rw [Option.map_id]
  rfl

/-- A text begins with one of two kinds of characters. -/
theorem leads_or (such other : Char → Bool) (text : List Char) :
    leads (fun c => such c || other c) text = (leads such text || leads other text) := by
  cases text <;> rfl

/-- A parameter that has been begun is the first item, and its number only grows. -/
theorem scan_pending {k : Nat} {text : List Char} {read : List Item}
    (scanned : scan place (some k) text = some read) : ∃ n ≥ k, ∃ rest, read = .parameter n :: rest := by
  -- Every digit adds a place to the number.
  induction text generalizing k with
  | nil =>
    obtain rfl : [Item.parameter k] = read := by simpa [scan] using scanned
    exact ⟨k, Nat.le_refl k, [], rfl⟩
  | cons c rest ih =>
    by_cases digit : c.isDigit = true
    · rw [scan, if_pos ⟨rfl, digit⟩, Option.map_some] at scanned
      obtain ⟨n, more, rest, rfl⟩ := ih scanned
      exact ⟨n, by omega, rest, rfl⟩
    · -- Any other character is behind the parameter.
      rw [scan, if_neg (fun both => digit both.2)] at scanned
      split at scanned
      · contradiction
      · split at scanned <;>
          obtain ⟨others, -, rfl⟩ := Option.map_eq_some_iff.mp scanned <;>
          exact ⟨k, Nat.le_refl k, _, rfl⟩

/-- A text that begins with a digit makes the number of the parameter in front of it another one. -/
theorem scan_digit {k : Nat} (positive : 0 < k) {text : List Char}
    (digit : leads Char.isDigit text = true) (rest : List Item) :
    scan place (some k) text ≠ some (.parameter k :: rest) := by
  intro scanned
  cases text with
  | nil => simp [leads] at digit
  | cons c text =>
    rw [scan, if_pos ⟨rfl, by simpa [leads] using digit⟩, Option.map_some] at scanned
    -- The number has at least one digit more.
    obtain ⟨n, more, others, same⟩ := scan_pending scanned
    obtain ⟨rfl, -⟩ : k = n ∧ rest = others := by simpa using same
    omega

/-- A parameter in front of a letter is refused. -/
theorem scan_name {k : Nat} {text : List Char} (notDigit : leads Char.isDigit text = false)
    (name : leads beginsName text = true) : scan place (some k) text = none := by
  cases text with
  | nil => simp [leads] at name
  | cons c text =>
    have notDigit : ¬ c.isDigit = true := by simpa [leads] using notDigit
    rw [scan, if_neg (fun both => notDigit both.2), if_pos ⟨rfl, by simpa [leads] using name⟩]

/-- A parameter ends in front of anything else. -/
theorem scan_ends {k : Nat} {text : List Char}
    (apart : leads (fun c => c.isDigit || beginsName c) text = false) :
    scan .gap (some k) text = (scan .gap none text).map (.parameter k :: ·) := by
  cases text with
  | nil => rfl
  | cons c text =>
    obtain ⟨notDigit, notName⟩ : ¬ c.isDigit = true ∧ ¬ beginsName c = true := by simpa [leads] using apart
    -- Both read the character between tokens.
    rw [scan, if_neg (fun both => notDigit both.2), if_neg (fun both => notName both.2), scan_none]
    by_cases dollar : c = '$' ∧ Place.gap.opens = true ∧ leads Char.isDigit text = true
    · rw [if_pos dollar, if_pos dollar]
      rfl
    · rw [if_neg dollar, if_neg dollar, Option.map_map]
      rfl

/-- The digits of a number are read one by one. -/
theorem scan_digits {digits : List Char} (all : ∀ c ∈ digits, c.isDigit = true) (place : Place) (k : Nat)
    (text : List Char) :
    scan place (some k) (digits ++ text) = scan place (some (Nat.ofDigitChars 10 digits k)) text := by
  -- Each digit shifts what has been read by one place.
  induction digits generalizing k with
  | nil => rfl
  | cons c rest ih =>
    rw [List.cons_append, scan, if_pos ⟨rfl, all c (by simp)⟩, Option.map_some,
      ih fun other member => all other (by simp [member]), Nat.ofDigitChars_cons]
    rfl

/-- A parameter in the spelling of PostgreSQL is read as its number, as far as that goes. -/
theorem scan_parameter (place : Place) (k : Nat) (text : List Char) :
    scan place none (Item.spelling (.parameter k) ++ text) =
      if place.opens = true then scan .gap (some k) text
      else (scan (place.next '$') none ((toString k).toList ++ text)).map (.char '$' :: ·) := by
  have all : ∀ c ∈ (toString k).toList, c.isDigit = true := by
    rw [Nat.toString_eq_repr, Nat.toList_repr]
    exact fun c member => Nat.isDigit_of_mem_toDigits (by decide) (by decide) member
  have value : Nat.ofDigitChars 10 (toString k).toList 0 = k := by
    rw [Nat.toString_eq_repr, Nat.toList_repr]
    exact Nat.ofDigitChars_ten_toDigits
  -- A number has a first digit.
  have digit : leads Char.isDigit ((toString k).toList ++ text) = true := by
    cases digits : (toString k).toList with
    | nil =>
      rw [Nat.toString_eq_repr, Nat.toList_repr] at digits
      exact absurd digits Nat.toDigits_ne_nil
    | cons c rest => exact all c (by rw [digits]; exact List.mem_cons_self)
  show scan place none ('$' :: ((toString k).toList ++ text)) = _
  rw [scan_none]
  by_cases opens : place.opens = true
  · rw [if_pos ⟨rfl, opens, digit⟩, if_pos opens, scan_digits all, value]
  · rw [if_neg (fun all => opens all.2.1), if_neg opens]

/-- A dollar sign that begins a parameter is not read as it is. -/
theorem scan_dollar {text : List Char} (opens : place.opens = true)
    (digit : leads Char.isDigit text = true) (rest : List Item) :
    scan place none ('$' :: text) ≠ some (.char '$' :: rest) := by
  intro scanned
  rw [scan_none, if_pos ⟨rfl, opens, digit⟩] at scanned
  -- The first item is the parameter.
  obtain ⟨n, -, others, same⟩ := scan_pending scanned
  simp at same

/-- A text and its items in the spelling of PostgreSQL begin alike, but for a parameter. -/
theorem leads_spelling {such : Char → Bool} (notQuestion : such '?' = false) (notDollar : such '$' = false)
    (place : Place) (k : Nat) (text : List Char) :
    leads such (spelling (items place k text)) = leads such text := by
  cases text with
  | nil => rfl
  | cons c rest =>
    by_cases question : c = '?' ∧ place.isCode = true
    · -- The parameter is written with a dollar sign in the place of the question mark.
      rw [items, if_pos question]
      show such '$' = such c
      rw [notDollar, question.1, notQuestion]
    · rw [items, if_neg question]
      rfl

/-- The items of a text in the spelling of PostgreSQL, item by item. -/
theorem spelling_cons (item : Item) (rest : List Item) : spelling (item :: rest) = item.spelling ++ spelling rest :=
  List.flatMap_cons

/-- A placeholder is read as its parameter exactly where it is a token of its own. -/
theorem scan_placeholder_iff {k : Nat} (positive : 0 < k) (rest : List Char) (others : List Item) :
    scan place none (Item.spelling (.parameter k) ++ rest) = some (.parameter k :: others) ↔
      place.opens = true ∧ leads (fun c => c.isDigit || beginsName c) rest = false ∧
        scan .gap none rest = some others := by
  rw [scan_parameter, leads_or, Bool.or_eq_false_iff]
  by_cases opens : place.opens = true
  · rw [if_pos opens]
    cases digit : leads Char.isDigit rest with
    | true =>
      -- A digit behind the number belongs to it.
      exact ⟨fun scanned => absurd scanned (scan_digit positive digit others), fun ⟨_, ⟨not, _⟩, _⟩ => by contradiction⟩
    | false =>
      cases name : leads beginsName rest with
      | true =>
        -- A letter behind the number is an error.
        rw [scan_name digit name]
        exact ⟨fun scanned => by contradiction, fun ⟨_, ⟨_, not⟩, _⟩ => by contradiction⟩
      | false =>
        -- Behind anything else the statement goes on between tokens.
        rw [scan_ends (by rw [leads_or, digit, name]; rfl)]
        simp [opens]
  · -- Behind a word, the dollar sign is one of its characters.
    rw [if_neg opens]
    refine ⟨fun scanned => ?_, fun ⟨here, _⟩ => absurd here opens⟩
    obtain ⟨read, -, same⟩ := Option.map_eq_some_iff.mp scanned
    simp at same

/--
PostgreSQL reads the items of a text in its own spelling exactly where the text is separated.

The text hides no question mark, and its placeholders are counted from one or a later number on.
-/
theorem scan_spelling_iff {k : Nat} (positive : 0 < k) {text : List Char} (visible : NoneHidden place text) :
    scan place none (spelling (items place k text)) = some (items place k text) ↔ Separated place text := by
  -- Both scans stand in the same place in front of every character of the text.
  induction text generalizing place k with
  | nil => exact ⟨fun _ => ⟨atEach_nil '?', atEach_nil '$'⟩, fun _ => rfl⟩
  | cons c rest ih =>
    obtain ⟨code, visible⟩ := atEach_cons.mp visible
    rw [separated_cons]
    by_cases question : c = '?'
    · -- A placeholder leads between two tokens.
      have notDollar : c ≠ '$' := by
        rintro rfl
        exact absurd question (by decide)
      have gap : place.next c = .gap := by rw [question, Place.next_placeholder (code question)]
      rw [items, if_pos ⟨question, code question⟩, spelling_cons, scan_placeholder_iff positive,
        leads_spelling (by decide) (by decide), ← ih (Nat.succ_pos k) visible, gap]
      simp [question, and_assoc]
    · rw [items, if_neg (fun both => question both.1), spelling_cons]
      show scan place none (c :: spelling (items (place.next c) k rest)) = _ ↔ _
      by_cases dollar : c = '$' ∧ place.opens = true ∧ leads Char.isDigit rest = true
      · -- A parameter of the text itself is not read as its characters.
        obtain ⟨rfl, opens, digit⟩ := dollar
        have spelled : leads Char.isDigit (spelling (items (place.next '$') k rest)) = true := by
          rw [leads_spelling (by decide) (by decide), digit]
        have read := scan_dollar opens spelled (items (place.next '$') k rest)
        refine ⟨fun scanned => absurd scanned read, fun ⟨_, apart, _⟩ => ?_⟩
        exact absurd (apart rfl opens) (by simp [digit])
      · rw [scan_none, leads_spelling (by decide) (by decide), if_neg dollar, ← ih positive visible]
        have apart : c = '$' → place.opens = true → leads Char.isDigit rest = false :=
          fun same opens => Bool.eq_false_iff.mpr fun digit => dollar ⟨same, opens, digit⟩
        rw [Option.map_eq_some_iff]
        refine ⟨fun ⟨read, scanned, same⟩ => ⟨fun here => absurd here question, apart, ?_⟩, fun ⟨_, _, scanned⟩ =>
          ⟨_, scanned, rfl⟩⟩
        rw [scanned, (List.cons.inj same).2]

end Sql
