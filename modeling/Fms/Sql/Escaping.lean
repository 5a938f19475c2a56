import Fms.Sql.Lexer

/-! String literals whose quotes are doubled, read with and without backslash escapes. -/

namespace Sql

variable {dialect : Dialect}

/-- The tokens of a text that is read on from a mode. -/
def finish (dialect : Dialect) (mode : Mode) (text : List Char) : Option (List Token) := do
  let (tokens, last) ← feed dialect mode text
  let ended ← flush last
  return tokens ++ ended

/-- A statement is read from between two tokens. -/
theorem lex_eq_finish (text : String) : lex dialect text = finish dialect .gap text.toList := rfl

/-- The tokens of a front come before those of the text that is read on behind it. -/
theorem finish_append {mode next : Mode} {front : List Char} {emitted : List Token}
    (fed : feed dialect mode front = some (emitted, next)) (back : List Char) :
    finish dialect mode (front ++ back) = (finish dialect next back).map (emitted ++ ·) := by
  simp only [finish, feed_append, fed, Option.bind_eq_bind, Option.bind_some, Option.pure_def]
  -- Either the text behind cannot be read on, or what it leaves at its end may not be ended there.
  cases feed dialect next back with
  | none => rfl
  | some read => cases ended : flush read.2 <;> simp [ended]

/-- The tokens of one character come before those of the rest. -/
theorem finish_cons {mode next : Mode} {c : Char} {emitted : List Token}
    (stepped : step dialect mode c = some (emitted, next)) (rest : List Char) :
    finish dialect mode (c :: rest) = (finish dialect next rest).map (emitted ++ ·) := by
  -- One character is a text of its own.
  have fed : feed dialect mode [c] = some (emitted, next) := by simp [feed, stepped]
  exact finish_append fed rest

/-- A character that completes no token leaves the tokens of the rest. -/
theorem finish_silent {mode next : Mode} {c : Char} (stepped : step dialect mode c = some ([], next))
    (rest : List Char) : finish dialect mode (c :: rest) = finish dialect next rest := by
  rw [finish_cons stepped]
  cases finish dialect next rest <;> rfl

/-- A token that cannot go on with the next character ends before it. -/
theorem finish_break {mode : Mode} {ended : List Token} (flushed : flush mode = some ended)
    {tail : List Char} (ends : ∀ c, tail.head? = some c → proceed dialect mode c = restart mode c) :
    finish dialect mode tail = (finish dialect .gap tail).map (ended ++ ·) := by
  -- At the end of the text there is nothing to look at but the token itself.
  cases tail with
  | nil =>
    have nothing : flush .gap = some [] := rfl
    simp [finish, feed, flushed, nothing]
  | cons c rest =>
    have restarts := ends c rfl
    by_cases cut : c = nul ∧ dialect.endsAtNul = true
    · -- The end of the statement ends the token as well.
      have silent : step dialect .gap c = some ([], .ended) := if_pos cut
      have last : step dialect mode c = some (ended, .ended) := by
        rw [step, if_pos cut, flushed, Option.map_some]
      rw [finish_cons last, finish_silent silent]
    · have goesOn : dialect.endsAtNul = true → c ≠ nul := fun ends same => cut ⟨same, ends⟩
      cases begun : start c with
      | none =>
        -- Neither the token nor a new one can take the character.
        have stuck : step dialect .gap c = none := (step_eq_proceed goesOn .gap).trans begun
        have stuck' : step dialect mode c = none := by
          simp [step_eq_proceed goesOn, restarts, restart, flushed, begun]
        simp [finish, feed, stuck, stuck']
      | some started =>
        have opened : step dialect .gap c = some (started.1, started.2) :=
          (step_eq_proceed goesOn .gap).trans begun
        have resumed : step dialect mode c = some (ended ++ started.1, started.2) := by
          simp [step_eq_proceed goesOn, restarts, restart, flushed, begun]
        rw [finish_cons opened, finish_cons resumed]
        cases finish dialect started.2 rest <;> simp

/-- A text with its quotes doubled. -/
def doubled (text : List Char) : List Char :=
  text.flatMap fun c => if c = '\'' then ['\'', '\''] else [c]

@[simp] theorem doubled_nil : doubled [] = [] := rfl

/-- A quote is doubled. -/
@[simp] theorem doubled_quote (rest : List Char) : doubled ('\'' :: rest) = '\'' :: '\'' :: doubled rest := rfl

/-- Any other character stays. -/
theorem doubled_cons {c : Char} (ordinary : c ≠ '\'') (rest : List Char) :
    doubled (c :: rest) = c :: doubled rest := by
  simp [doubled, ordinary]

/-- The quotes of two texts are doubled one after the other. -/
theorem doubled_append (front back : List Char) :
    doubled (front ++ back) = doubled front ++ doubled back :=
  List.flatMap_append

/-- A text without quotes is its own doubled form. -/
theorem doubled_of_not_mem {text : List Char} (absent : '\'' ∉ text) : doubled text = text := by
  -- No character of the text is doubled.
  induction text with
  | nil => rfl
  | cons c rest ih =>
    obtain ⟨apart, absent⟩ := not_or.mp (List.mem_cons.not.mp absent)
    rw [doubled_cons (Ne.symm apart), ih absent]

/-- Every backslash of a text stands before a wildcard of patterns, where an escape keeps it. -/
def BackslashesKept (text : List Char) : Prop :=
  ∀ front back, text = front ++ '\\' :: back →
    ∃ next rest, back = next :: rest ∧ (next = '%' ∨ next = '_')

/-- There is no backslash in the empty text. -/
theorem backslashesKept_nil : BackslashesKept [] := by
  intro front back same
  cases front <;> contradiction

/-- A character that is no backslash makes no difference. -/
theorem backslashesKept_cons_iff {c : Char} (ordinary : c ≠ '\\') {rest : List Char} :
    BackslashesKept (c :: rest) ↔ BackslashesKept rest := by
  -- A backslash of the longer text is one of the shorter, with the character in front of it.
  constructor
  · intro kept front back same
    exact kept (c :: front) back (by rw [same, List.cons_append])
  · intro kept front back same
    cases front with
    | nil => exact absurd (List.cons.inj same).1 ordinary
    | cons head front => exact kept front back (List.cons.inj same).2

/-- A backslash needs a wildcard behind it. -/
theorem backslashesKept_backslash_iff {rest : List Char} :
    BackslashesKept ('\\' :: rest) ↔
      (∃ next more, rest = next :: more ∧ (next = '%' ∨ next = '_')) ∧ BackslashesKept rest := by
  -- The backslash in front is looked at by itself; all others are in the rest.
  constructor
  · intro kept
    refine ⟨kept [] rest rfl, fun front back same => ?_⟩
    exact kept ('\\' :: front) back (by rw [same, List.cons_append])
  · rintro ⟨first, kept⟩ front back same
    cases front with
    | nil =>
      obtain rfl : rest = back := (List.cons.inj same).2
      exact first
    | cons head front => exact kept front back (List.cons.inj same).2

/-- Behind a backslash, only a wildcard leaves a backslash in the content and goes on. -/
theorem unescape_wildcard {c : Char} (wildcard : c = '%' ∨ c = '_') : unescape c = ['\\', c] := by
  rcases wildcard with rfl | rfl <;> rfl

/-- What any other character but a backslash stands for begins with no backslash. -/
theorem unescape_other {c : Char} (ordinary : c ≠ '\\') (apart : ¬(c = '%' ∨ c = '_')) :
    ∃ d, unescape c = [d] ∧ d ≠ '\\' := by
  have wild : ¬((c = '%' || c = '_') = true) := by simpa using apart
  -- Each letter that stands for something else stands for a single character.
  simp only [unescape, if_neg wild]
  repeat' split
  all_goals first | exact ⟨_, rfl, by decide⟩ | exact ⟨c, rfl, ordinary⟩

/-- A text with kept backslashes is the content of its doubled form. -/
theorem feed_doubled : ∀ {text : List Char}, (dialect.backslashEscapes = true → BackslashesKept text) →
    Uncut dialect text →
    ∀ read : List Char, feed dialect (.literal read) (doubled text) = some ([], .literal (read ++ text))
  | [], _, _, read => by simp [feed]
  | c :: rest, kept, uncut, read => by
    obtain ⟨goesOn, uncutRest⟩ := uncut_cons_iff.mp uncut
    by_cases quote : c = '\''
    · -- The first quote seems to close the literal, and the second opens it again.
      subst quote
      have keptRest := fun escapes => (backslashesKept_cons_iff (by decide)).mp (kept escapes)
      have first : step dialect (.literal read) '\'' = some ([], .closing read) := rfl
      have second : step dialect (.closing read) '\'' = some ([], .literal (read ++ ['\''])) := rfl
      simp [feed, first, second, feed_doubled keptRest uncutRest]
    · by_cases escapes : dialect.backslashEscapes = true ∧ c = '\\'
      · obtain ⟨escapes, rfl⟩ := escapes
        obtain ⟨⟨next, more, rfl, wildcard⟩, keptRest⟩ := backslashesKept_backslash_iff.mp (kept escapes)
        have plain : next ≠ '\'' ∧ next ≠ '\\' := by rcases wildcard with rfl | rfl <;> decide
        have keptMore := (backslashesKept_cons_iff plain.2).mp keptRest
        obtain ⟨goesOnNext, uncutMore⟩ := uncut_cons_iff.mp uncutRest
        -- The escape gives back its two characters.
        have first : step dialect (.literal read) '\\' = some ([], .escape read) := by
          simp [step_eq_proceed goesOn, proceed, escapes]
        have second : step dialect (.escape read) next = some ([], .literal (read ++ ['\\', next])) := by
          simp [step_eq_proceed goesOnNext, proceed, unescape_wildcard wildcard]
        rw [doubled_cons (by decide), doubled_cons plain.1]
        simp [feed, first, second, feed_doubled (fun _ => keptMore) uncutMore]
      · -- Any other character is content, a backslash where it does not escape included.
        have first : step dialect (.literal read) c = some ([], .literal (read ++ [c])) := by
          have taken : (dialect.backslashEscapes && decide (c = '\\')) = false := by simpa using escapes
          simp [step_eq_proceed goesOn, proceed, quote, taken]
        have keptRest : dialect.backslashEscapes = true → BackslashesKept rest := fun does =>
          (backslashesKept_cons_iff fun same => escapes ⟨does, same⟩).mp (kept does)
        rw [doubled_cons quote]
        simp [feed, first, feed_doubled keptRest uncutRest]

/-- A closing quote before something other than a quote ends its literal. -/
theorem finish_closing (read : List Char) {tail : List Char} (apart : tail.head? ≠ some '\'') :
    finish dialect (.closing read) tail =
      (finish dialect .gap tail).map (.literal (String.ofList read) :: ·) := by
  -- Only a second quote would have gone on with the literal.
  have flushed : flush (.closing read) = some [.literal (String.ofList read)] := rfl
  have ends : ∀ c, tail.head? = some c → proceed dialect (.closing read) c = restart (.closing read) c := by
    intro c first
    have another : c ≠ '\'' := fun same => apart (by rw [first, same])
    simp [proceed, another]
  exact finish_break flushed ends

/-- A text with kept backslashes is read as one token. -/
theorem finish_literal {text : List Char} (kept : dialect.backslashEscapes = true → BackslashesKept text)
    (uncut : Uncut dialect text) {tail : List Char} (apart : tail.head? ≠ some '\'') :
    finish dialect (.literal []) (doubled text ++ '\'' :: tail) =
      (finish dialect .gap tail).map (.literal (String.ofList text) :: ·) := by
  -- What is read up to the closing quote is the text, and the quote ends it.
  have closes : step dialect (.literal text) '\'' = some ([], .closing text) := rfl
  rw [finish_append (feed_doubled kept uncut []), List.nil_append, finish_silent closes,
    finish_closing text apart]
  cases finish dialect .gap tail <;> simp

/-- What never goes on with a quote does not begin with one. -/
theorem head_ne_of_forall {text : List Char} (alone : ∀ rest, text = '\'' :: rest → False) :
    text.head? ≠ some '\'' := by
  intro first
  cases text with
  | nil => contradiction
  | cons c rest =>
    obtain rfl : c = '\'' := Option.some.inj first
    exact alone rest rfl

/-- A statement does not end inside a token that needs more characters. -/
theorem goesOn_of_finish {mode : Mode} {c : Char} {rest : List Char} {tokens : List Token}
    (unfinished : flush mode = none) (finished : finish dialect mode (c :: rest) = some tokens) :
    dialect.endsAtNul = true → c ≠ nul := by
  rintro ends rfl
  -- The token would be left open.
  have cut : step dialect mode nul = none := by
    rw [step, if_pos ⟨rfl, ends⟩, unfinished, Option.map_none]
  simp [finish, feed, cut] at finished

/-- A backslash that escapes waits for the character it is about. -/
theorem step_backslash (escapes : dialect.backslashEscapes = true) (read : List Char) :
    step dialect (.literal read) '\\' = some ([], .escape read) := by
  rw [step_eq_proceed fun _ => by decide]
  simp [proceed, escapes]

/-- The content of a literal with backslash escapes, read from behind its opening quote. -/
@[grind =]
def escaped : List Char → List Char
  | [] => []
  | '\'' :: '\'' :: rest => '\'' :: escaped rest
  | '\'' :: _ => []
  | '\\' :: c :: rest => unescape c ++ escaped rest
  | c :: rest => c :: escaped rest

/-- With escapes, a literal that is read to its end is a token with that content. -/
theorem finish_escaped (escapes : dialect.backslashEscapes = true) {text : List Char} :
    ∀ {read : List Char} {tokens : List Token}, finish dialect (.literal read) text = some tokens →
      ∃ more, tokens = .literal (String.ofList (read ++ escaped text)) :: more := by
  -- By the content, with what has been read before left arbitrary.
  have closes (read : List Char) : step dialect (.literal read) '\'' = some ([], .closing read) := rfl
  fun_induction escaped text with
  | case1 =>
    intro read tokens finished
    -- A literal that is still open at the end is no token.
    simp [finish, feed, flush] at finished
  | case2 rest ih =>
    intro read tokens finished
    -- The content goes on behind two quotes.
    have doubled : step dialect (.closing read) '\'' = some ([], .literal (read ++ ['\''])) := rfl
    rw [finish_silent (closes read), finish_silent doubled] at finished
    obtain ⟨more, same⟩ := ih finished
    exact ⟨more, by rw [same, List.append_assoc, List.singleton_append]⟩
  | case3 rest alone =>
    intro read tokens finished
    -- One quote alone is the end of the literal.
    have apart : rest.head? ≠ some '\'' := head_ne_of_forall alone
    rw [finish_silent (closes read), finish_closing read apart] at finished
    obtain ⟨more, _, rfl⟩ := Option.map_eq_some_iff.mp finished
    exact ⟨more, by rw [List.append_nil]⟩
  | case4 c rest ih =>
    intro read tokens finished
    -- The escape and the character behind it are replaced.
    have first : step dialect (.literal read) '\\' = some ([], .escape read) := step_backslash escapes read
    rw [finish_silent first] at finished
    have second : step dialect (.escape read) c = some ([], .literal (read ++ unescape c)) :=
      step_eq_proceed (goesOn_of_finish rfl finished) (.escape read)
    rw [finish_silent second] at finished
    obtain ⟨more, same⟩ := ih finished
    exact ⟨more, by rw [same, List.append_assoc]⟩
  | case5 c rest _ notQuote notEscape ih =>
    intro read tokens finished
    by_cases backslash : c = '\\'
    · -- A backslash at the very end leaves the literal open.
      subst backslash
      cases rest with
      | nil => simp [finish, feed, step_backslash escapes, flush] at finished
      | cons c rest => exact absurd rfl (notEscape c rest rfl)
    · have ordinary : c ≠ '\'' := notQuote
      have kept : step dialect (.literal read) c = some ([], .literal (read ++ [c])) := by
        rw [step_eq_proceed (goesOn_of_finish rfl finished)]
        simp [proceed, ordinary, backslash]
      rw [finish_silent kept] at finished
      obtain ⟨more, same⟩ := ih finished
      exact ⟨more, by rw [same, List.append_assoc, List.singleton_append]⟩

/-- Copies of a character in front of another one can be counted from either side. -/
theorem replicate_append_cons {α : Type} (count : Nat) (a : α) (tail : List α) :
    List.replicate count a ++ a :: tail = a :: (List.replicate count a ++ tail) := by
  rw [List.append_cons, ← List.replicate_succ', List.replicate_succ, List.cons_append]

/-- The closing quote ends the content. -/
theorem escaped_end {tail : List Char} (apart : tail.head? ≠ some '\'') : escaped ('\'' :: tail) = [] := by
  cases tail with
  | nil => rfl
  | cons c rest =>
    have another : c ≠ '\'' := fun same => apart (by rw [same, List.head?_cons])
    rw [escaped.eq_3]
    intro tail same
    exact another (List.cons.inj same).1

/-- A character that is neither quote nor backslash is content. -/
theorem escaped_cons {c : Char} (quote : c ≠ '\'') (backslash : c ≠ '\\') (rest : List Char) :
    escaped (c :: rest) = c :: escaped rest :=
  escaped.eq_5 _ _ (fun _ same _ => quote same) quote fun _ _ same _ => backslash same

/-- The content is the text only if its backslashes are kept and none is expected in front of it. -/
theorem escaped_ne {tail : List Char} (apart : tail.head? ≠ some '\'') : ∀ {text : List Char} {count : Nat},
    escaped (doubled text ++ '\'' :: tail) = List.replicate count '\\' ++ text →
      count = 0 ∧ BackslashesKept text
  | [], count, same => by
    -- The content has ended, so that no backslash can be expected any more.
    rw [doubled_nil, List.nil_append, escaped_end apart, List.append_nil] at same
    exact ⟨by simpa using same.symm, backslashesKept_nil⟩
  | c :: rest, count, same => by
    by_cases backslash : c = '\\'
    · subst backslash
      rw [doubled_cons (by decide), List.cons_append, replicate_append_cons] at same
      -- What the escape stands for has to begin with the backslash itself.
      cases rest with
      | nil =>
        have read : escaped ('\\' :: '\'' :: tail) = '\'' :: escaped tail := rfl
        rw [doubled_nil, List.nil_append, read] at same
        exact absurd (List.cons.inj same).1 (by decide)
      | cons d more =>
        by_cases quote : d = '\''
        · subst quote
          have read (behind : List Char) : escaped ('\\' :: '\'' :: behind) = '\'' :: escaped behind := rfl
          rw [doubled_quote, List.cons_append, List.cons_append, read] at same
          exact absurd (List.cons.inj same).1 (by decide)
        · have read (behind : List Char) : escaped ('\\' :: d :: behind) = unescape d ++ escaped behind := rfl
          rw [doubled_cons quote, List.cons_append, read] at same
          by_cases again : d = '\\'
          · -- Two backslashes leave one, so that from here on one more is expected.
            subst again
            have one : unescape '\\' = ['\\'] := rfl
            rw [one, List.singleton_append, replicate_append_cons, ← List.cons_append,
              ← List.replicate_succ] at same
            obtain ⟨none_, _⟩ := escaped_ne apart (List.cons.inj same).2
            omega
          · by_cases wildcard : d = '%' ∨ d = '_'
            · rw [unescape_wildcard wildcard, List.cons_append, List.singleton_append] at same
              have behind := (List.cons.inj same).2
              cases count with
              | zero =>
                -- The escape gives back both characters, so nothing is owed behind them.
                obtain ⟨_, kept⟩ := @escaped_ne _ apart more 0 (List.cons.inj behind).2
                refine ⟨rfl, backslashesKept_backslash_iff.mpr ⟨⟨d, more, rfl, wildcard⟩, ?_⟩⟩
                exact (backslashesKept_cons_iff again).mpr kept
              | succ count =>
                rw [List.replicate_succ, List.cons_append] at behind
                exact absurd (List.cons.inj behind).1 again
            · -- Any other escape loses its backslash.
              obtain ⟨x, stands, other⟩ := unescape_other again wildcard
              rw [stands, List.singleton_append] at same
              exact absurd (List.cons.inj same).1 other
    · -- Where no backslash stands, the content begins with the character itself.
      have read : escaped (doubled (c :: rest) ++ '\'' :: tail) =
          c :: escaped (doubled rest ++ '\'' :: tail) := by
        by_cases quote : c = '\''
        · subst quote
          rfl
        · rw [doubled_cons quote, List.cons_append, escaped_cons quote backslash]
      rw [read] at same
      cases count with
      | zero =>
        obtain ⟨_, kept⟩ := @escaped_ne _ apart rest 0 (List.cons.inj same).2
        exact ⟨rfl, (backslashesKept_cons_iff backslash).mpr kept⟩
      | succ count =>
        rw [List.replicate_succ, List.cons_append] at same
        exact absurd (List.cons.inj same).1 backslash

/-- A literal whose content is read to its end has not been cut. -/
theorem uncut_of_finish {text tail : List Char} {tokens : List Token}
    (kept : dialect.backslashEscapes = true → BackslashesKept text)
    (finished : finish dialect (.literal []) (doubled text ++ tail) = some tokens) :
    Uncut dialect text := by
  intro ends member
  obtain ⟨front, back, rfl, absent⟩ := List.eq_append_cons_of_mem member
  -- No backslash stands before the null character, so those in front of it are kept as well.
  have keptFront : dialect.backslashEscapes = true → BackslashesKept front := by
    intro escapes first last same
    obtain ⟨next, rest, follows, wildcard⟩ :=
      kept escapes first (last ++ nul :: back) (by rw [same, List.append_assoc, List.cons_append])
    cases last with
    | nil =>
      obtain rfl : nul = next := (List.cons.inj follows).1
      exact absurd wildcard (by decide)
    | cons c more => exact ⟨c, more, rfl, (List.cons.inj follows).1 ▸ wildcard⟩
  have fed := feed_doubled keptFront (fun _ => absent) []
  have split : doubled (front ++ nul :: back) ++ tail = doubled front ++ nul :: (doubled back ++ tail) := by
    rw [doubled_append, doubled_cons (by decide), List.append_assoc, List.cons_append]
  -- The statement would end where the literal is still open.
  rw [split, finish_append fed] at finished
  obtain ⟨rest, cut, _⟩ := Option.map_eq_some_iff.mp finished
  exact goesOn_of_finish rfl cut ends rfl

/-- The tokens are the text and what follows exactly when its backslashes are kept. -/
theorem finish_literal_iff {text tail : List Char} (apart : tail.head? ≠ some '\'') (tokens : List Token) :
    finish dialect (.literal []) (doubled text ++ '\'' :: tail) =
        some (.literal (String.ofList text) :: tokens) ↔
      (dialect.backslashEscapes = true → BackslashesKept text) ∧ Uncut dialect text ∧
        finish dialect .gap tail = some tokens := by
  constructor
  · intro finished
    -- Whatever the token's text is, it is the content of the literal.
    have kept : dialect.backslashEscapes = true → BackslashesKept text := by
      intro escapes
      obtain ⟨more, same⟩ := finish_escaped escapes finished
      have content : text = escaped (doubled text ++ '\'' :: tail) := by
        simpa using congrArg String.toList (Token.literal.inj (List.cons.inj same).1)
      exact (@escaped_ne _ apart text 0 content.symm).2
    have uncut := uncut_of_finish kept finished
    rw [finish_literal kept uncut apart] at finished
    obtain ⟨more, rest, same⟩ := Option.map_eq_some_iff.mp finished
    exact ⟨kept, uncut, by rw [rest, (List.cons.inj same).2]⟩
  · rintro ⟨kept, uncut, rest⟩
    rw [finish_literal kept uncut apart, rest, Option.map_some]

/-- A text is a word of its own. -/
def isWord (text : String) : Bool :=
  match text.toList with
  | [] => false
  | first :: rest => startsWord first && rest.all continuesWord

/-- A character that starts a word is no space and no digit. -/
theorem start_word {c : Char} (starts : startsWord c = true) : start c = some ([], .word [c]) := by
  have visible : isSpace c = false := by
    cases space : isSpace c with
    | false => rfl
    | true =>
      simp only [isSpace, Bool.or_eq_true, decide_eq_true_eq] at space
      rcases space with ((rfl | rfl) | rfl) | rfl <;> exact absurd starts (by decide)
  have noDigit : c.isDigit = false := by
    cases digit : c.isDigit with
    | false => rfl
    | true =>
      -- The digits come before both ranges of letters.
      have alpha : c.isAlpha = (decide (c.val ≥ 65 ∧ c.val ≤ 90) ||
          (decide (c.val ≥ 97) && decide (c.val ≤ 122))) := rfl
      have range : c.isDigit = (decide (c.val ≥ 48) && decide (c.val ≤ 57)) := rfl
      simp only [startsWord, alpha, range, Bool.or_eq_true, Bool.and_eq_true, decide_eq_true_eq]
        at starts digit
      rcases starts with (upper | lower) | rfl
      · exact absurd (UInt32.le_trans upper.1 digit.2) (by decide)
      · exact absurd (UInt32.le_trans lower.1 digit.2) (by decide)
      · exact absurd digit (by decide)
  simp [start, visible, noDigit, starts]

/-- No word has the character that ends a statement. -/
theorem word_ne_nul {c : Char} (continues : continuesWord c = true) : c ≠ nul := by
  rintro rfl
  exact absurd continues (by decide)

/-- Inside a word, characters of words are read on. -/
theorem feed_continued {rest : List Char} (all : rest.all continuesWord = true) (read : List Char) :
    feed dialect (.word read) rest = some ([], .word (read ++ rest)) := by
  induction rest generalizing read with
  | nil => simp [feed]
  | cons c rest ih =>
    obtain ⟨first, others⟩ := Bool.and_eq_true_iff.mp (List.all_cons ▸ all)
    have kept : step dialect (.word read) c = some ([], .word (read ++ [c])) := by
      rw [step_eq_proceed fun _ => word_ne_nul first, proceed, if_pos first]
    simp [feed, kept, ih others]

/-- A word between two tokens is read as one. -/
theorem feed_word {text : String} (word : isWord text = true) :
    feed dialect .gap text.toList = some ([], .word text.toList) := by
  unfold isWord at word
  cases chars : text.toList with
  | nil => simp [chars] at word
  | cons first rest =>
    simp only [chars] at word
    obtain ⟨starts, others⟩ := Bool.and_eq_true_iff.mp word
    -- The first character opens a word, and the others continue it.
    have continues : continuesWord first = true := Bool.or_eq_true_iff.mpr (Or.inl starts)
    have opened : step dialect .gap first = some ([], .word [first]) :=
      (step_eq_proceed (fun _ => word_ne_nul continues) .gap).trans (start_word starts)
    simp [feed, opened, feed_continued others]

/-- A number that goes on with no digit and no letter is read as one. -/
theorem finish_number (n : Nat) {tail : List Char}
    (ends : ∀ c, tail.head? = some c → continuesWord c = false) :
    finish dialect .gap ((toString n).toList ++ tail) = (finish dialect .gap tail).map (.number n :: ·) := by
  have flushed : flush (.number n) = some [.number n] := rfl
  -- A character that can stand in a word could be a digit of the number as well.
  have restarts : ∀ c, tail.head? = some c → proceed dialect (.number n) c = restart (.number n) c := by
    intro c first
    have other := ends c first
    have noDigit : c.isDigit = false := (Bool.or_eq_false_iff.mp other).2
    simp [proceed, noDigit, other]
  rw [finish_append (feed_decimal dialect n), finish_break flushed restarts]
  cases finish dialect .gap tail <;> simp

end Sql
