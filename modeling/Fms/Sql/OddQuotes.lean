import Fms.Sql.Escaping

/-! Among words, an odd number of quotes leaves a literal open. -/

namespace Sql

variable {dialect : Dialect}

/-- Characters of words, blanks, equality signs and quotes. -/
def isQuiet (c : Char) : Bool :=
  continuesWord c || c = ' ' || c = '=' || c = '\''

/-- Among words, an odd number of quotes. -/
def OddQuotes (text : List Char) : Prop :=
  text.all isQuiet = true ∧ text.count '\'' % 2 = 1

instance (text : List Char) : Decidable (OddQuotes text) := inferInstanceAs (Decidable (_ ∧ _))

/-- Between two tokens, or in one that a quote ends. -/
def Mode.isBetween : Mode → Bool
  | .gap | .word _ | .number _ | .closing _ => true
  | .literal _ | .escape _ | .operator _ | .dash | .comment | .ended => false

/-- A quiet character is neither a backslash nor the end of a statement. -/
theorem ne_of_isQuiet {c : Char} (quiet : isQuiet c = true) : c ≠ '\\' ∧ c ≠ nul := by
  constructor
  · rintro rfl
    exact absurd quiet (by decide)
  · rintro rfl
    exact absurd quiet (by decide)

/-- The first character of a token among words leads to a place among them, unless it is a quote. -/
theorem start_quiet {c : Char} (quiet : isQuiet c = true) (apart : c ≠ '\'') :
    ∃ emitted next, start c = some (emitted, next) ∧ next.isBetween = true := by
  by_cases blank : isSpace c = true
  · exact ⟨[], .gap, if_pos blank, rfl⟩
  by_cases digit : c.isDigit = true
  · exact ⟨[], .number (digitValue c), by rw [start, if_neg blank, if_pos digit], rfl⟩
  by_cases letter : startsWord c = true
  · exact ⟨[], .word [c], start_word letter, rfl⟩
  -- Only the equality sign is left.
  obtain rfl : c = '=' := by
    simp only [isQuiet, continuesWord, Bool.or_eq_true, decide_eq_true_eq] at quiet
    rcases quiet with (((begins | number) | space) | same) | quote
    · exact absurd begins letter
    · exact absurd number digit
    · subst space
      exact absurd rfl blank
    · exact same
    · exact absurd quote apart
  exact ⟨[.symbol "="], .gap, rfl, rfl⟩

/-- A token among words ends without an error. -/
theorem exists_flush {mode : Mode} (between : mode.isBetween = true) : ∃ ended, flush mode = some ended := by
  cases mode with
  | gap | word | number | closing => exact ⟨_, rfl⟩
  | literal | escape | operator | dash | comment | ended => exact absurd between Bool.false_ne_true

/-- Among words, a quote begins a literal. -/
theorem proceed_quote {mode : Mode} (between : mode.isBetween = true) :
    ∃ emitted read, proceed dialect mode '\'' = some (emitted, .literal read) := by
  cases mode with
  | gap => exact ⟨[], [], rfl⟩
  | word read => exact ⟨[.word (String.ofList read)], [], rfl⟩
  | number read => exact ⟨[.number read], [], rfl⟩
  -- Behind another quote it goes on with the literal.
  | closing read => exact ⟨[], read ++ ['\''], rfl⟩
  | literal | escape | operator | dash | comment | ended => exact absurd between Bool.false_ne_true

/-- Among words, any other character leads to a place among them, or it is an error. -/
theorem proceed_quiet {mode : Mode} (between : mode.isBetween = true) {c : Char} (quiet : isQuiet c = true)
    (apart : c ≠ '\'') : proceed dialect mode c = none ∨
      ∃ emitted next, proceed dialect mode c = some (emitted, next) ∧ next.isBetween = true := by
  obtain ⟨started, next, began, still⟩ := start_quiet quiet apart
  obtain ⟨ended, flushed⟩ := exists_flush between
  have restarted : restart mode c = some (ended ++ started, next) := by
    simp [restart, flushed, began]
  -- The character goes on with the token or begins another one.
  cases mode with
  | gap => exact .inr ⟨started, next, began, still⟩
  | word read =>
    rw [proceed]
    split
    · exact .inr ⟨_, _, rfl, rfl⟩
    · exact .inr ⟨_, _, restarted, still⟩
  | number read =>
    rw [proceed]
    split
    · exact .inr ⟨_, _, rfl, rfl⟩
    · split
      · exact .inl rfl
      · exact .inr ⟨_, _, restarted, still⟩
  | closing read => exact .inr ⟨_, _, by rw [proceed, if_neg apart, restarted], still⟩
  | literal | escape | operator | dash | comment | ended => exact absurd between Bool.false_ne_true

/--
A text of words and quotes that ends in a literal cannot be split into tokens.

Behind the beginning of a literal that is an even number of quotes, and outside of literals an odd number.
-/
theorem finish_quiet {text : List Char} (quiet : text.all isQuiet = true) :
    (∀ read, text.count '\'' % 2 = 0 → finish dialect (.literal read) text = none) ∧
      ∀ mode : Mode, mode.isBetween = true → text.count '\'' % 2 = 1 → finish dialect mode text = none := by
  -- Every quote leads from one side to the other, and no other character does.
  induction text with
  | nil => exact ⟨fun _ _ => rfl, fun _ _ odd => by simp at odd⟩
  | cons c rest ih =>
    obtain ⟨first, others⟩ := Bool.and_eq_true_iff.mp (List.all_cons ▸ quiet)
    obtain ⟨inLiteral, outside⟩ := ih others
    obtain ⟨notEscape, goesOn⟩ := ne_of_isQuiet first
    have steps : ∀ mode, step dialect mode c = proceed dialect mode c := step_eq_proceed fun _ => goesOn
    by_cases quote : c = '\''
    · subst quote
      rw [List.count_cons_self]
      refine ⟨fun read even => ?_, fun mode between odd => ?_⟩
      · -- The literal ends, or a second quote follows.
        have closes : step dialect (.literal read) '\'' = some ([], .closing read) := steps _
        rw [finish_silent closes]
        exact outside _ rfl (by omega)
      · obtain ⟨emitted, read, begins⟩ := @proceed_quote dialect mode between
        rw [finish_cons ((steps mode).trans begins), inLiteral read (by omega)]
        rfl
    · rw [List.count_cons_of_ne quote]
      refine ⟨fun read even => ?_, fun mode between odd => ?_⟩
      · -- The character belongs to the literal.
        have kept : step dialect (.literal read) c = some ([], .literal (read ++ [c])) := by
          rw [steps]
          simp [proceed, quote, notEscape]
        rw [finish_silent kept]
        exact inLiteral _ even
      · rcases @proceed_quiet dialect mode between c first quote with error | ⟨emitted, next, goes, still⟩
        · have stuck : step dialect mode c = none := (steps mode).trans error
          simp [finish, feed, stuck]
        · rw [finish_cons ((steps mode).trans goes), outside next still odd]
          rfl

/-- A statement of words with an odd number of quotes is none for any product. -/
theorem lex_oddQuotes {text : String} (odd : OddQuotes text.toList) : lex dialect text = none := by
  rw [lex_eq_finish]
  exact (finish_quiet odd.1).2 .gap rfl odd.2

end Sql
