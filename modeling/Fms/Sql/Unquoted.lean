import Fms.Sql.Escaping
import Fms.Sql.Splice

/-! Texts without quotes inside literals, where only a backslash can be read as something else. -/

namespace Sql

variable {dialect : Dialect}

/-- A literal that has read a text without quotes is still open, perhaps behind a backslash that escapes. -/
theorem feed_unquoted : ∀ {text : List Char}, '\'' ∉ text → Uncut dialect text → ∃ content : List Char,
    (∀ read, feed dialect (.literal read) text = some ([], .literal (read ++ content))) ∨
      ∀ read, feed dialect (.literal read) text = some ([], .escape (read ++ content))
  | [], _, _ => ⟨[], Or.inl fun read => by simp [feed]⟩
  | c :: rest, absent, uncut => by
    obtain ⟨apart, absentRest⟩ := not_or.mp (List.mem_cons.not.mp absent)
    obtain ⟨goesOn, uncutRest⟩ := uncut_cons_iff.mp uncut
    by_cases escapes : dialect.backslashEscapes = true ∧ c = '\\'
    · obtain ⟨escapes, rfl⟩ := escapes
      have first := step_backslash escapes
      cases rest with
      | nil => exact ⟨[], Or.inr fun read => by simp [feed, first]⟩
      | cons next more =>
        obtain ⟨goesOnNext, uncutMore⟩ := uncut_cons_iff.mp uncutRest
        -- The backslash and the character behind it are read together.
        have second (read : List Char) :
            step dialect (.escape read) next = some ([], .literal (read ++ unescape next)) :=
          step_eq_proceed goesOnNext (.escape read)
        obtain ⟨content, inside | behind⟩ :=
          feed_unquoted (fun member => absentRest (List.mem_cons_of_mem next member)) uncutMore
        · exact ⟨unescape next ++ content, Or.inl fun read => by simp [feed, first, second, inside]⟩
        · exact ⟨unescape next ++ content, Or.inr fun read => by simp [feed, first, second, behind]⟩
    · -- Any other character is content.
      have taken : (dialect.backslashEscapes && decide (c = '\\')) = false := by simpa using escapes
      have first (read : List Char) : step dialect (.literal read) c = some ([], .literal (read ++ [c])) := by
        rw [step_eq_proceed goesOn]
        simp [proceed, Ne.symm apart, taken]
      obtain ⟨content, inside | behind⟩ := feed_unquoted absentRest uncutRest
      · exact ⟨c :: content, Or.inl fun read => by simp [feed, first, inside]⟩
      · exact ⟨c :: content, Or.inr fun read => by simp [feed, first, behind]⟩

/-- A text without quotes spells a content, or leaves an escape open. -/
theorem spells_or_escapes {text : String} (absent : '\'' ∉ text.toList)
    (uncut : Uncut dialect text.toList) :
    (∃ content, Spells dialect text content) ∨
      ∀ read, ∃ left, feed dialect (.literal read) text.toList = some ([], .escape left) := by
  -- What a literal reads of the text does not depend on what it has read before.
  obtain ⟨content, inside | behind⟩ := feed_unquoted absent uncut
  · exact Or.inl ⟨String.ofList content, fun read => by rw [inside, String.toList_ofList]⟩
  · exact Or.inr fun read => ⟨read ++ content, behind read⟩

/-- The content that a text without quotes spells is the text itself exactly when its backslashes are kept. -/
theorem spells_self_iff {text content : String} (absent : '\'' ∉ text.toList)
    (uncut : Uncut dialect text.toList) (spelled : Spells dialect text content) :
    content = text ↔ (dialect.backslashEscapes = true → BackslashesKept text.toList) := by
  -- The literal with the quote behind it is one token, and that token is compared with the text.
  have closing : feed dialect (.literal content.toList) ['\''] = some ([], .closing content.toList) := rfl
  have read : finish dialect (.literal []) (text.toList ++ ['\'']) = some [.literal content] := by
    have fed := spelled []
    rw [finish_append fed, finish, List.nil_append, closing]
    simp [flush]
  have exact_ := @finish_literal_iff dialect text.toList [] (by simp) []
  have empty : finish dialect .gap [] = some [] := rfl
  rw [doubled_of_not_mem absent, read, String.ofList_toList] at exact_
  simpa [empty, uncut] using exact_

/-- Every literal among the tokens has a quote in it. -/
def AllQuoted (tokens : List Token) : Prop :=
  ∀ value, Token.literal value ∈ tokens → '\'' ∈ value.toList

/-- Outside of literals, or behind the end of one that has a quote in it. -/
def Outside : Mode → Prop
  | .closing read => '\'' ∈ read
  | .literal _ | .escape _ => False
  | .gap | .word _ | .number _ | .operator _ | .dash | .comment | .ended => True

/-- A token that is no literal needs no quote. -/
theorem allQuoted_nil : AllQuoted [] := fun _ member => absurd member List.not_mem_nil

/-- The tokens of two parts are those of both. -/
theorem AllQuoted.append {front back : List Token} (first : AllQuoted front) (second : AllQuoted back) :
    AllQuoted (front ++ back) := fun value member =>
  (List.mem_append.mp member).elim (first value) (second value)

/-- Outside of literals, what is completed has no literal without a quote. -/
theorem allQuoted_flush {mode : Mode} (outside : Outside mode) {ended : List Token}
    (flushed : flush mode = some ended) : AllQuoted ended := by
  -- Only the end of a literal completes one, and that literal has a quote.
  intro value member
  cases mode with
  | closing read =>
    cases flushed
    cases Token.literal.inj (List.mem_singleton.mp member)
    rw [String.toList_ofList]
    exact outside
  | operator first =>
    simp only [flush] at flushed
    split at flushed
    · contradiction
    · cases flushed
      simp at member
  | literal read | escape read => exact outside.elim
  | gap | word read | number read | dash | comment | ended =>
    cases flushed
    simp at member

/-- A character that is no quote opens no literal. -/
theorem outside_start {c : Char} (apart : c ≠ '\'') {started : List Token} {next : Mode}
    (opened : start c = some (started, next)) : Outside next ∧ AllQuoted started := by
  -- Only a quote would open a literal.
  simp only [start, if_neg apart] at opened
  repeat' split at opened
  all_goals first
    | contradiction
    | cases opened
      refine ⟨trivial, fun value member => ?_⟩
      simp at member

/-- A character that is no quote leads into no literal. -/
theorem outside_restart {mode : Mode} (outside : Outside mode) {c : Char} (apart : c ≠ '\'')
    {emitted : List Token} {next : Mode} (restarted : restart mode c = some (emitted, next)) :
    Outside next ∧ AllQuoted emitted := by
  -- The mode is completed first, and then the character starts another one.
  simp only [restart, Option.bind_eq_bind, Option.bind_eq_some_iff, Option.pure_def, Option.some.injEq,
    Prod.mk.injEq] at restarted
  obtain ⟨ended, flushed, ⟨started, after⟩, opened, rfl, rfl⟩ := restarted
  obtain ⟨still, quoted⟩ := outside_start apart opened
  exact ⟨still, (allQuoted_flush outside flushed).append quoted⟩

/-- Outside of literals, a character of the statement that is no quote leads into none. -/
theorem outside_proceed {mode : Mode} (outside : Outside mode) {c : Char} (apart : c ≠ '\'')
    {emitted : List Token} {next : Mode} (stepped : proceed dialect mode c = some (emitted, next)) :
    Outside next ∧ AllQuoted emitted := by
  -- Most characters either continue what is being read or end it.
  cases mode with
  | gap => exact outside_start apart stepped
  | literal read | escape read => exact outside.elim
  | closing read =>
    simp only [proceed, if_neg apart] at stepped
    exact outside_restart outside apart stepped
  | word read | number read | operator first | dash | comment | ended =>
    simp only [proceed] at stepped
    repeat' split at stepped
    all_goals first
      | contradiction
      | exact outside_restart outside apart stepped
      | cases stepped
        refine ⟨trivial, fun value member => ?_⟩
        simp at member

/-- Outside of literals, a character that is no quote leads into none. -/
theorem outside_step {mode : Mode} (outside : Outside mode) {c : Char} (apart : c ≠ '\'')
    {emitted : List Token} {next : Mode} (stepped : step dialect mode c = some (emitted, next)) :
    Outside next ∧ AllQuoted emitted := by
  unfold step at stepped
  split at stepped
  · -- The end of the statement completes a token outside of literals.
    obtain ⟨completed, flushed, same⟩ := Option.map_eq_some_iff.mp stepped
    cases same
    exact ⟨trivial, allQuoted_flush outside flushed⟩
  · exact outside_proceed outside apart stepped

/-- Outside of literals, a text without quotes opens none. -/
theorem outside_feed {text : List Char} (absent : '\'' ∉ text) {mode last : Mode} (outside : Outside mode)
    {emitted : List Token} (fed : feed dialect mode text = some (emitted, last)) :
    Outside last ∧ AllQuoted emitted := by
  -- The mode stays outside of literals from one character to the next.
  induction text generalizing mode emitted with
  | nil =>
    cases fed
    exact ⟨outside, allQuoted_nil⟩
  | cons c rest ih =>
    obtain ⟨apart, absent⟩ := not_or.mp (List.mem_cons.not.mp absent)
    simp only [feed, Option.bind_eq_bind, Option.bind_eq_some_iff, Option.pure_def, Option.some.injEq,
      Prod.mk.injEq] at fed
    obtain ⟨⟨first, next⟩, stepped, ⟨more, after⟩, behind, rfl, rfl⟩ := fed
    obtain ⟨still, quoted⟩ := outside_step outside (Ne.symm apart) stepped
    obtain ⟨ends, others⟩ := ih absent still behind
    exact ⟨ends, quoted.append others⟩

/-- A space inside a literal is content. -/
theorem step_space (read : List Char) :
    step dialect (.literal read) ' ' = some ([], .literal (read ++ [' '])) := by
  rw [step_eq_proceed fun _ => by decide]
  simp [proceed]

/-- A literal that a last quote and a space leave open is no token, and a comment hides both. -/
theorem allQuoted_closed {mode : Mode} (outside : Outside mode) {tokens : List Token}
    (finished : finish dialect mode ['\'', ' '] = some tokens) : AllQuoted tokens := by
  have opened (read : List Char) : finish dialect (.literal read) [' '] = none := by
    simp [finish, feed, step_space, flush]
  cases mode with
  | comment | ended =>
    cases finished
    exact allQuoted_nil
  | literal read | escape read => exact outside.elim
  | operator first =>
    have opens : start '\'' = some ([], .literal []) := rfl
    cases ended : flush (.operator first) with
    | none =>
      -- A single exclamation mark is no operator.
      have quote : step dialect (.operator first) '\'' = none := by
        rw [step_eq_proceed fun _ => by decide]
        simp [proceed, restart, ended]
      simp [finish, feed, quote] at finished
    | some operator =>
      have quote : step dialect (.operator first) '\'' = some (operator, .literal []) := by
        rw [step_eq_proceed fun _ => by decide]
        simp [proceed, restart, ended, opens]
      rw [finish_cons quote, opened] at finished
      contradiction
  | gap =>
    have quote : step dialect .gap '\'' = some ([], .literal []) := rfl
    rw [finish_cons quote, opened] at finished
    contradiction
  | word read =>
    have quote : step dialect (.word read) '\'' = some ([.word (String.ofList read)], .literal []) := rfl
    rw [finish_cons quote, opened] at finished
    contradiction
  | number read =>
    have quote : step dialect (.number read) '\'' = some ([.number read], .literal []) := rfl
    rw [finish_cons quote, opened] at finished
    contradiction
  | dash =>
    have quote : step dialect .dash '\'' = some ([.symbol "-"], .literal []) := rfl
    rw [finish_cons quote, opened] at finished
    contradiction
  | closing read =>
    have quote : step dialect (.closing read) '\'' = some ([], .literal (read ++ ['\''])) := rfl
    rw [finish_cons quote, opened] at finished
    contradiction

variable {front text middle text' : String} {opened : List Token}

/-- A statement whose last literal ends in a backslash that escapes has no end. -/
theorem lex_of_escape (before : feed dialect .gap front.toList = some (opened, .literal []))
    (behind : ∀ read, ∃ left, feed dialect (.literal read) text.toList = some ([], .escape left)) :
    lex dialect (front ++ text ++ "' ") = none := by
  -- The last quote belongs to the content, so the literal never ends.
  obtain ⟨left, escape⟩ := behind []
  have closes : "' ".toList = ['\'', ' '] := rfl
  have quote : step dialect (.escape left) '\'' = some ([], .literal (left ++ unescape '\'')) := rfl
  have space (read : List Char) : finish dialect (.literal read) [' '] = none := by
    simp [finish, feed, step_space, flush]
  rw [lex_eq_finish, String.append_assoc, String.toList_append, finish_append before, String.toList_append,
    finish_append escape, closes, finish_cons quote, space]
  rfl

/-- Behind such a backslash a quote is content, and so is plain text up to the next quote. -/
theorem feed_beyond_quote {plain : String} (isPlain : Plain dialect plain) (left : List Char) :
    feed dialect (.escape left) ('\'' :: (plain.toList ++ ['\''])) =
      some ([], .closing (left ++ ['\''] ++ plain.toList)) := by
  -- The escaped quote is content, and the plain text behind it follows.
  have first : step dialect (.escape left) '\'' = some ([], .literal (left ++ ['\''])) := rfl
  have last (read : List Char) : step dialect (.literal read) '\'' = some ([], .closing read) := rfl
  simp [feed, feed_append, first, last, feed_plain isPlain]

/-- A literal that such a backslash leads beyond its quote swallows what stands behind it up to the next. -/
theorem allQuoted_of_escape (before : feed dialect .gap front.toList = some (opened, .literal []))
    (quoted : AllQuoted opened)
    (behind : ∀ read, ∃ left, feed dialect (.literal read) text.toList = some ([], .escape left))
    (inside : ∀ left, ∃ read, '\'' ∈ read ∧
      feed dialect (.escape left) middle.toList = some ([], .closing read))
    (absent : '\'' ∉ text'.toList) {tokens : List Token}
    (lexed : lex dialect (front ++ text ++ middle ++ text' ++ "' ") = some tokens) : AllQuoted tokens := by
  obtain ⟨left, escape⟩ := behind []
  obtain ⟨read, quote, closing⟩ := inside left
  have chars : (front ++ text ++ middle ++ text' ++ "' ").toList =
      front.toList ++ (text.toList ++ (middle.toList ++ (text'.toList ++ ['\'', ' ']))) := by
    simp only [String.toList_append, List.append_assoc]
    rfl
  rw [lex_eq_finish, chars, finish_append before, finish_append escape, finish_append closing] at lexed
  -- Only the second text and the end of the statement can still have tokens.
  obtain ⟨_, second, rfl⟩ := Option.map_eq_some_iff.mp lexed
  obtain ⟨_, third, rfl⟩ := Option.map_eq_some_iff.mp second
  obtain ⟨rest, finished, rfl⟩ := Option.map_eq_some_iff.mp third
  refine quoted.append (allQuoted_nil.append (allQuoted_nil.append ?_))
  cases fed : feed dialect (.closing read) text'.toList with
  | none => simp [finish, feed_append, fed] at finished
  | some result =>
    obtain ⟨emitted, last⟩ := result
    have outside : Outside (.closing read) := quote
    obtain ⟨still, own⟩ := outside_feed absent outside fed
    rw [finish_append fed] at finished
    obtain ⟨more, closed, rfl⟩ := Option.map_eq_some_iff.mp finished
    exact own.append (allQuoted_closed still closed)

/-- The texts that a parsed condition compares with are literals among its tokens. -/
theorem texts_parse (fuel : Nat) :
    (∀ (tokens rest : List Token) (c : Condition), parseEither fuel tokens = some (c, rest) →
        rest ⊆ tokens ∧ ∀ atom ∈ c.atoms, ∀ value, atom.constant = .text value → .literal value ∈ tokens) ∧
      (∀ (tokens rest : List Token) (c : Condition), parseBoth fuel tokens = some (c, rest) →
        rest ⊆ tokens ∧ ∀ atom ∈ c.atoms, ∀ value, atom.constant = .text value → .literal value ∈ tokens) ∧
      ∀ (tokens rest : List Token) (c : Condition), parseAtom fuel tokens = some (c, rest) →
        rest ⊆ tokens ∧ ∀ atom ∈ c.atoms, ∀ value, atom.constant = .text value → .literal value ∈ tokens := by
  -- The three parsers call each other, so one induction on the fuel covers all of them.
  induction fuel with
  | zero => refine ⟨?_, ?_, ?_⟩ <;> intro tokens rest c parsed <;> contradiction
  | succ fuel ih =>
    obtain ⟨either, both, atom⟩ := ih
    -- What is read behind a keyword stands behind the first part.
    have joined {tokens more rest : List Token} {next : Token} {left right : Condition}
        (first : next :: more ⊆ tokens ∧
          ∀ atom ∈ left.atoms, ∀ value, atom.constant = .text value → .literal value ∈ tokens)
        (second : rest ⊆ more ∧
          ∀ atom ∈ right.atoms, ∀ value, atom.constant = .text value → .literal value ∈ more) :
        rest ⊆ tokens ∧ ∀ atom ∈ left.atoms ++ right.atoms, ∀ value, atom.constant = .text value →
          .literal value ∈ tokens := by
      have within : more ⊆ tokens := fun token member => first.1 (List.mem_cons_of_mem next member)
      refine ⟨fun token member => within (second.1 member), fun atom member value text => ?_⟩
      rcases List.mem_append.mp member with inFirst | inSecond
      · exact first.2 atom inFirst value text
      · exact within (second.2 atom inSecond value text)
    refine ⟨?_, ?_, ?_⟩
    · intro tokens rest c parsed
      obtain ⟨left, middle, first, ⟨rfl, rfl⟩ | ⟨next, more, right, rfl, second, rfl⟩⟩ :=
        parseEither_cases parsed
      · exact both _ _ _ first
      · exact joined (both _ _ _ first) (either _ _ _ second)
    · intro tokens rest c parsed
      obtain ⟨left, middle, first, ⟨rfl, rfl, _⟩ | ⟨next, more, right, rfl, second, rfl⟩⟩ :=
        parseBoth_cases parsed
      · exact atom _ _ _ first
      · exact joined (atom _ _ _ first) (both _ _ _ second)
    · intro tokens rest c parsed
      rcases parseAtom_cases parsed with
        ⟨more, rfl, inner⟩ | ⟨column, symbol, value, op, constant, rfl, _, denotes, rfl⟩
      · obtain ⟨within, texts⟩ := either _ _ _ inner
        refine ⟨fun token member => ?_, fun atom member value text => ?_⟩
        · exact List.mem_cons_of_mem _ (within (List.mem_cons_of_mem _ member))
        · exact List.mem_cons_of_mem _ (texts atom member value text)
      · refine ⟨fun token member => by simp [member], fun atom member text same => ?_⟩
        cases List.mem_singleton.mp member
        -- Of the tokens that stand for constants, only a literal stands for a text.
        cases value with
        | literal written =>
          cases denotes
          cases same
          simp
        | number | symbol => simp [constant?] at denotes <;> simp [← denotes] at same
        | word written =>
          simp only [constant?] at denotes
          repeat' split at denotes
          all_goals first
            | contradiction
            | (cases denotes; contradiction)

/-- The texts that a condition compares with are literals of its statement. -/
theorem literal_mem_of_atom {tokens : List Token} {c : Condition} (parsed : parseCondition tokens = some c)
    {atom : Atom} (member : atom ∈ c.atoms) {value : String} (text : atom.constant = .text value) :
    Token.literal value ∈ tokens := by
  -- The whole statement is consumed by one run of the parser.
  simp only [parseCondition, Option.bind_eq_bind, Option.bind_eq_some_iff] at parsed
  obtain ⟨⟨condition, rest⟩, consumed, parsed⟩ := parsed
  split at parsed
  · cases parsed
    exact ((texts_parse _).1 _ _ _ consumed).2 atom member value text
  · contradiction

end Sql
