import Fms.Framework.WildcardAttempts

/-! How a text divides among the symbols of a pattern, and the divisions on which `Utils::match` is right. -/

namespace Fms

namespace Utils

open CString

/-- A symbol of a pattern with the piece of a text that it stands for. -/
abbrev Part := Char × List Char

/-- A star stands for any piece, a question mark for one character, and any other symbol for itself. -/
def Fits (part : Part) : Prop :=
  part.1 = '*' ∨ part.1 = '?' ∧ part.2.length = 1 ∨ part.2 = [part.1]

/--
The pieces that the last of some stars in a row may have, given what stands behind it in the pattern and the text.

The piece ends with the first star of the text, or it has none and something else follows in the text; at the end of
the text the star has to be the end of the pattern as well. The other stars of the row have nothing.
-/
def StarTakes (pattern piece text : List Char) : Prop :=
  if pattern.head? = some '*' then piece = []
  else (∃ run, '*' ∉ run ∧ piece = run ++ ['*']) ∨
    '*' ∉ piece ∧ ((∃ c rest, text = c :: rest ∧ c ≠ '*') ∨ text = [] ∧ pattern = [])

/-- The text divides among the symbols of a front of a pattern, with the rest of the pattern behind it. -/
structure Divides (division : List Part) (front rest text : List Char) : Prop where
  symbols : division.map Prod.fst = front
  pieces : division.flatMap Prod.snd = text
  fits : ∀ part ∈ division, Fits part
  stars : ∀ before piece behind, division = before ++ ('*', piece) :: behind →
    StarTakes (behind.map Prod.fst ++ rest) piece (behind.flatMap Prod.snd)

/--
A pattern and a text that make no difficulty.

The text divides among the symbols of the pattern so that no star goes beyond a star of the text. Or the language of
the pattern lacks the text, and no front of the pattern with a question mark behind it has such a division.
-/
def DividesWell (pattern text : CString) : Prop :=
  (∃ division, Divides division pattern.chars [] text.chars) ∨
    ¬ Wildcards.Matches '*' '?' pattern.chars text.chars ∧
      ∀ front back, pattern.chars = front ++ '?' :: back →
        ¬ ∃ division, Divides division front ('?' :: back) text.chars

/-- A call is right: it reads nothing behind the ends, and returns whether the pattern has the text. -/
def MatchIsRight (pattern text : CString) : Prop :=
  ∃ result, match_ (pointer pattern.chars) (pointer text.chars) = some result ∧
    (result = true ↔ Wildcards.Matches '*' '?' pattern.chars text.chars)

variable {division : List Part} {front rest text : List Char}

/-! ### Divisions and attempts -/

/-- An empty text divides among no symbols. -/
theorem divides_nil (rest : List Char) : Divides [] [] rest [] := by
  refine ⟨rfl, rfl, fun part absent => absurd absent List.not_mem_nil, fun before piece behind split => ?_⟩
  simp at split

/-- A division goes on in front with a symbol and its piece. -/
theorem Divides.cons (divides : Divides division front rest text) {part : Part} (fits : Fits part)
    (star : part.1 = '*' → StarTakes (front ++ rest) part.2 text) :
    Divides (part :: division) (part.1 :: front) rest (part.2 ++ text) := by
  obtain ⟨rfl, rfl, others, stars⟩ := divides
  refine ⟨rfl, rfl, List.forall_mem_cons.mpr ⟨fits, others⟩, fun before piece behind split => ?_⟩
  -- The star is the first symbol, or one of those behind it.
  cases before with
  | nil =>
    obtain ⟨rfl, rfl⟩ : part = ('*', piece) ∧ division = behind := by simpa using split
    exact star rfl
  | cons first before =>
    obtain ⟨-, rfl⟩ : part = first ∧ division = before ++ ('*', piece) :: behind := by simpa using split
    exact stars before piece behind rfl

/-- A division begins with a symbol and its piece. -/
theorem Divides.tail {part : Part} (divides : Divides (part :: division) front rest text) :
    ∃ front' text', front = part.1 :: front' ∧ text = part.2 ++ text' ∧ Fits part ∧
      (part.1 = '*' → StarTakes (front' ++ rest) part.2 text') ∧ Divides division front' rest text' := by
  obtain ⟨rfl, rfl, fits, stars⟩ := divides
  obtain ⟨first, others⟩ := List.forall_mem_cons.mp fits
  refine ⟨_, _, rfl, rfl, first, ?_, ⟨rfl, rfl, others, fun before piece behind split => ?_⟩⟩
  · obtain ⟨symbol, piece⟩ := part
    rintro rfl
    exact stars [] piece division rfl
  · exact stars (part :: before) piece behind (by rw [split]; rfl)

/-- A star takes a piece without a star before it attempts the rest. -/
theorem attempt_run {pattern run : List Char} (single : pattern.head? ≠ some '*') (starless : '*' ∉ run)
    (later : Attempt ('*' :: pattern) text rest) : Attempt ('*' :: pattern) (run ++ text) rest := by
  -- By the characters of the piece.
  induction run with
  | nil => exact later
  | cons c run ih =>
    rw [List.mem_cons, not_or] at starless
    exact .takes single (Ne.symm starless.1) (ih starless.2)

/-- A star attempts what the symbols behind it attempt behind its piece. -/
theorem attempt_star {pattern piece : List Char} (takes : StarTakes pattern piece text)
    (later : Attempt pattern text rest) : Attempt ('*' :: pattern) (piece ++ text) rest := by
  unfold StarTakes at takes
  split at takes
  · -- Another star follows, which has the piece of both.
    rename_i again
    obtain ⟨others, rfl⟩ := List.head?_eq_some_iff.mp again
    subst takes
    exact .again later
  · rename_i single
    rcases takes with ⟨run, starless, rfl⟩ | ⟨starless, ⟨c, back, rfl, other⟩ | ⟨rfl, rfl⟩⟩
    · -- The piece ends with a star of the text.
      rw [List.append_assoc]
      exact attempt_run single starless (.meets single later)
    · exact attempt_run single starless (.stops single other later)
    · obtain ⟨-, rfl⟩ := attempt_nil_iff.mp later
      exact attempt_run single starless .last

/-- A division is an attempt that leaves the rest. -/
theorem attempt_of_divides (divides : Divides division front rest text) : Attempt (front ++ rest) text rest := by
  induction division generalizing front text with
  | nil =>
    obtain ⟨rfl, rfl, -, -⟩ := divides
    exact .spent rest
  | cons part division ih =>
    obtain ⟨symbol, piece⟩ := part
    obtain ⟨front, text, rfl, rfl, fits, star, later⟩ := divides.tail
    have attempt := ih later
    -- By the kind of the symbol.
    by_cases single : symbol = '*'
    · subst single
      exact attempt_star (star rfl) attempt
    · rcases fits with same | ⟨rfl, one⟩ | same
      · exact absurd same single
      · obtain ⟨c, rfl⟩ := List.length_eq_one_iff.mp one
        exact .one c attempt
      · obtain rfl : piece = [symbol] := same
        by_cases plain : symbol = '?'
        · subst plain
          exact .one '?' attempt
        · exact .same single plain attempt

/-- A star with a piece takes one character more, unless nothing behind it has been attempted. -/
theorem StarTakes.cons {pattern piece : List Char} (takes : StarTakes pattern piece text)
    (single : pattern.head? ≠ some '*') {c : Char} (other : c ≠ '*') : StarTakes pattern (c :: piece) text := by
  rw [StarTakes, if_neg single] at takes ⊢
  -- The character is in front of where the star stops.
  rcases takes with ⟨run, starless, rfl⟩ | ⟨starless, follows⟩
  · exact .inl ⟨c :: run, by simp [Ne.symm other, starless], rfl⟩
  · exact .inr ⟨by simp [Ne.symm other, starless], follows⟩

/-- An attempt that leaves no star first is a division. -/
theorem divides_of_attempt {pattern : List Char} (fewer : rest.head? ≠ some '*')
    (attempt : Attempt pattern text rest) :
    ∃ front division, pattern = front ++ rest ∧ Divides division front rest text := by
  -- Each rule puts a symbol in front of a division, or makes its first piece longer.
  induction attempt with
  | spent rest => exact ⟨[], [], rfl, divides_nil rest⟩
  | one c _ ih =>
    obtain ⟨front, division, rfl, divides⟩ := ih fewer
    exact ⟨'?' :: front, ('?', [c]) :: division, rfl,
      divides.cons (.inr (.inl ⟨rfl, rfl⟩)) fun star : '?' = '*' => absurd star (by decide)⟩
  | @same symbol _ _ _ single _ _ ih =>
    obtain ⟨front, division, rfl, divides⟩ := ih fewer
    exact ⟨symbol :: front, (symbol, [symbol]) :: division, rfl,
      divides.cons (.inr (.inr rfl)) fun star : symbol = '*' => absurd star single⟩
  | @again pattern _ rest _ ih =>
    obtain ⟨front, division, same, divides⟩ := ih fewer
    -- The first star has nothing.
    refine ⟨'*' :: front, ('*', []) :: division, by rw [same]; rfl,
      divides.cons (.inl rfl) fun _ => ?_⟩
    rw [← same, StarTakes, if_pos List.head?_cons]
  | last =>
    refine ⟨['*'], [('*', [])], rfl, (divides_nil []).cons (.inl rfl) fun _ => ?_⟩
    exact .inr ⟨List.not_mem_nil, .inr ⟨rfl, rfl⟩⟩
  | @meets pattern text _ single _ ih =>
    obtain ⟨front, division, rfl, divides⟩ := ih fewer
    refine ⟨'*' :: front, ('*', ['*']) :: division, rfl,
      divides.cons (.inl rfl) fun _ => ?_⟩
    rw [StarTakes, if_neg single]
    exact .inl ⟨[], List.not_mem_nil, rfl⟩
  | @stops pattern text _ c single other _ ih =>
    obtain ⟨front, division, rfl, divides⟩ := ih fewer
    refine ⟨'*' :: front, ('*', []) :: division, rfl,
      divides.cons (.inl rfl) fun _ => ?_⟩
    rw [StarTakes, if_neg single]
    exact .inr ⟨List.not_mem_nil, .inl ⟨c, text, rfl, other⟩⟩
  | @takes pattern text rest c single other _ ih =>
    obtain ⟨front, division, same, divides⟩ := ih fewer
    cases division with
    | nil =>
      -- The star itself would have been left.
      obtain ⟨rfl, -, -, -⟩ := divides
      rw [List.map_nil, List.nil_append] at same
      rw [← same] at fewer
      exact absurd rfl fewer
    | cons part division =>
      obtain ⟨symbol, piece⟩ := part
      obtain ⟨front, text, rfl, rfl, fits, star, later⟩ := divides.tail
      obtain ⟨rfl, rfl⟩ : '*' = symbol ∧ pattern = front ++ rest := by simpa using same
      exact ⟨'*' :: front, ('*', c :: piece) :: division, rfl,
        later.cons (.inl rfl) fun _ => (star rfl).cons single other⟩

/-- The attempts that leave no star first are the divisions among a front of the pattern. -/
theorem attempt_iff_divides {pattern : List Char} (fewer : rest.head? ≠ some '*') :
    Attempt pattern text rest ↔ ∃ front, pattern = front ++ rest ∧ ∃ division, Divides division front rest text := by
  constructor
  · intro attempt
    obtain ⟨front, division, split, divides⟩ := divides_of_attempt fewer attempt
    exact ⟨front, split, division, divides⟩
  · rintro ⟨front, rfl, division, divides⟩
    exact attempt_of_divides divides

/-! ### Texts without stars -/

/-- What divides among the symbols of a pattern is in its language. -/
theorem matches_of_divides (divides : Divides division front rest text) :
    Wildcards.Matches '*' '?' front text := by
  -- Part by part: a star takes its piece, any other symbol the one character its piece is.
  induction division generalizing front text with
  | nil =>
    obtain ⟨rfl, rfl, -, -⟩ := divides
    exact .done
  | cons part division ih =>
    obtain ⟨symbol, piece⟩ := part
    obtain ⟨front, text, rfl, rfl, fits, -, later⟩ := divides.tail
    have matched := ih later
    by_cases single : symbol = '*'
    · subst single
      exact .run piece matched
    · rcases fits with same | ⟨rfl, one⟩ | same
      · exact absurd same single
      · obtain ⟨c, rfl⟩ := List.length_eq_one_iff.mp one
        exact .one c matched
      · obtain rfl : piece = [symbol] := same
        by_cases plain : symbol = '?'
        · subst plain
          exact .one '?' matched
        · exact .same single plain matched

/-- In a text without a star, a star of a pattern may take what comes before an attempt. -/
theorem attempt_takes {pattern : List Char} {c : Char} (other : c ≠ '*') (fewer : rest.head? ≠ some '*')
    (attempt : Attempt ('*' :: pattern) text rest) : Attempt ('*' :: pattern) (c :: text) rest := by
  -- By the stars of the pattern, of which the last one takes the character.
  induction pattern with
  | nil => exact .takes (by simp) other attempt
  | cons symbol pattern ih =>
    by_cases single : symbol = '*'
    · subst single
      exact .again (ih ((attempt_stars_iff fewer).mp attempt))
    · exact .takes (by simpa using single) other attempt

/-- In a text without a star, a star may stop at once, unless it would be the last symbol in front of the rest. -/
theorem attempt_stops (starless : '*' ∉ text) (fewer : rest.head? ≠ some '*') (ended : front = [] → rest = [])
    (attempt : Attempt (front ++ rest) text rest) : Attempt ('*' :: (front ++ rest)) text rest := by
  cases front with
  | nil =>
    -- The star is the last symbol of the pattern, and the text is at its end.
    obtain rfl := ended rfl
    obtain ⟨rfl, -⟩ := attempt_nil_iff.mp attempt
    exact .last
  | cons symbol front =>
    by_cases single : symbol = '*'
    · subst single
      exact .again attempt
    · cases text with
      | nil =>
        -- Only what is left can begin with a symbol that has no character.
        rw [List.cons_append, attempt_symbol_nil_iff single] at attempt
        have longer := congrArg List.length attempt
        simp only [List.length_cons, List.length_append] at longer
        omega
      | cons c text =>
        have other : c ≠ '*' := fun star => starless (star ▸ List.mem_cons_self)
        exact .stops (by simpa using single) other attempt

/-- On a text without a star, a front of the pattern attempts its whole language, unless it ends in a star. -/
theorem attempt_of_matches (starless : '*' ∉ text) (fewer : rest.head? ≠ some '*')
    (matched : Wildcards.Matches '*' '?' front text) (ended : front.getLast? = some '*' → rest = []) :
    Attempt (front ++ rest) text rest := by
  -- By the derivation, where the characters that a star skips are taken one by one.
  induction matched with
  | done => exact .spent rest
  | @run skipped pattern text _ ih =>
    have behind : '*' ∉ text := fun star => starless (List.mem_append_right _ star)
    have later := ih behind fun last => ended (by
      rw [List.getLast?_cons, last]
      rfl)
    have stops : Attempt ('*' :: (pattern ++ rest)) text rest :=
      attempt_stops behind fewer (fun empty => ended (by rw [empty]; rfl)) later
    induction skipped with
    | nil => exact stops
    | cons c skipped further =>
      have other : c ≠ '*' := fun star => starless (star ▸ List.mem_cons_self)
      exact attempt_takes other fewer (further fun star => starless (List.mem_cons_of_mem _ star))
  | @one c pattern _ _ ih =>
    refine .one c (ih (fun star => starless (List.mem_cons_of_mem _ star)) fun last => ended ?_)
    rw [List.getLast?_cons, last]
    rfl
  | @same symbol pattern _ single plain _ ih =>
    refine .same single plain (ih (fun star => starless (List.mem_cons_of_mem _ star)) fun last => ended ?_)
    rw [List.getLast?_cons, last]
    rfl

/-- A text without a star divides among a front exactly when it is in its language and no star is its last symbol. -/
theorem divides_iff_matches (starless : '*' ∉ text) {back : List Char} :
    (∃ division, Divides division front ('?' :: back) text) ↔
      Wildcards.Matches '*' '?' front text ∧ front.getLast? ≠ some '*' := by
  constructor
  · rintro ⟨division, divides⟩
    refine ⟨matches_of_divides divides, fun last => ?_⟩
    -- The last star would have to end with a star of the text.
    obtain ⟨before, rfl⟩ := List.getLast?_eq_some_iff.mp last
    obtain ⟨symbols, rfl, -, stars⟩ := divides
    obtain ⟨former, parts, rfl, -, one⟩ := List.map_eq_append_iff.mp symbols
    obtain ⟨⟨symbol, piece⟩, rfl, same⟩ := List.map_eq_singleton_iff.mp one
    obtain rfl : symbol = '*' := same
    have takes := stars former piece [] rfl
    rw [StarTakes, if_neg (by simp)] at takes
    rcases takes with ⟨run, -, rfl⟩ | ⟨-, ⟨c, tail, none_, -⟩ | ⟨-, none_⟩⟩
    · simp at starless
    · simp at none_
    · simp at none_
  · rintro ⟨matched, last⟩
    have attempt := @attempt_of_matches front ('?' :: back) text starless (by simp) matched fun star => absurd star last
    obtain ⟨other, division, split, divides⟩ := divides_of_attempt (by simp) attempt
    obtain rfl := List.append_cancel_right split
    exact ⟨division, divides⟩

/-! ### The outcome of a call -/

/-- The divisions among all symbols are the attempts that leave none. -/
theorem exists_divides_iff : (∃ division, Divides division front [] text) ↔ Attempt front text [] := by
  rw [attempt_iff_divides (by simp)]
  simp

/-- The divisions among fronts with a question mark behind them are the attempts that leave one. -/
theorem exists_pending_iff : (∃ front' back, front = front' ++ '?' :: back ∧
    ∃ division, Divides division front' ('?' :: back) text) ↔ ∃ back, Attempt front text ('?' :: back) := by
  constructor
  · rintro ⟨front', back, split, divided⟩
    exact ⟨back, (attempt_iff_divides (by simp)).mpr ⟨front', split, divided⟩⟩
  · rintro ⟨back, attempt⟩
    obtain ⟨front', split, divided⟩ := (attempt_iff_divides (by simp)).mp attempt
    exact ⟨front', back, split, divided⟩

/--
A call of `match` is right exactly where pattern and text make no difficulty.

For a text without stars that is: the text is in the language of the pattern, or in that of no front of it that ends
in front of a question mark and not with a star.
-/
theorem match_isRight_iff (pattern text : CString) :
    (MatchIsRight pattern text ↔ DividesWell pattern text) ∧
      ('*' ∉ text.chars → (MatchIsRight pattern text ↔
        Wildcards.Matches '*' '?' pattern.chars text.chars ∨
          ∀ front back, pattern.chars = front ++ '?' :: back → front.getLast? ≠ some '*' →
            ¬ Wildcards.Matches '*' '?' front text.chars)) := by
  have exact_ : MatchIsRight pattern text ↔ DividesWell pattern text := by
    -- The outcome of the call says which attempts there are.
    have found := found_match pattern.chars pattern.unterminated text.chars text.unterminated
    have pending := @exists_pending_iff pattern.chars text.chars
    unfold MatchIsRight DividesWell
    rw [exists_divides_iff]
    rcases outcome : match_ (pointer pattern.chars) (pointer text.chars) with - | - | - <;> rw [outcome] at found
    · -- Something was read behind the end of the text, so a question mark was left there.
      obtain ⟨missed, left⟩ := found
      obtain ⟨front, back, split, divided⟩ := pending.mpr left
      refine iff_of_false (by simp) ?_
      rintro (finished | ⟨-, none_⟩)
      · exact missed finished
      · exact none_ front back split divided
    · obtain ⟨missed, never⟩ := found
      have none_ : ∀ front back, pattern.chars = front ++ '?' :: back →
          ¬ ∃ division, Divides division front ('?' :: back) text.chars := by
        intro front back split divided
        obtain ⟨left, attempt⟩ := pending.mp ⟨front, back, split, divided⟩
        exact never left attempt
      constructor
      · rintro ⟨result, returned, agree⟩
        obtain rfl := Option.some.inj returned
        exact .inr ⟨fun matched => Bool.false_ne_true (agree.mpr matched), none_⟩
      · rintro (finished | ⟨absent, -⟩)
        · exact absurd finished missed
        · exact ⟨false, rfl, fun true_ => absurd true_ Bool.false_ne_true, fun matched => absurd matched absent⟩
    · have finished : Attempt pattern.chars text.chars [] := found
      simp [finished, matches_of_attempt finished]
  refine ⟨exact_, fun starless => exact_.trans ?_⟩
  have whole : (∃ division, Divides division pattern.chars [] text.chars) ↔
      Wildcards.Matches '*' '?' pattern.chars text.chars := by
    rw [exists_divides_iff]
    refine ⟨matches_of_attempt, fun matched => ?_⟩
    have attempt := @attempt_of_matches pattern.chars [] text.chars starless (by simp) matched fun _ => rfl
    rwa [List.append_nil] at attempt
  unfold DividesWell
  rw [whole]
  simp only [divides_iff_matches starless]
  -- Both sides let the language decide, and differ only in how they exclude the fronts.
  constructor
  · rintro (matched | ⟨-, none_⟩)
    · exact .inl matched
    · exact .inr fun front back split last matched => none_ front back split ⟨matched, last⟩
  · rintro (matched | none_)
    · exact .inl matched
    · by_cases matched : Wildcards.Matches '*' '?' pattern.chars text.chars
      · exact .inl matched
      · exact .inr ⟨matched, fun front back split both => none_ front back split both.2 both.1⟩

/-- A question mark reads behind an empty text, and a star fails on the text of two stars. -/
theorem match_question_mark_of_empty :
    ¬ MatchIsRight ⟨['?'], by decide⟩ ⟨[], by decide⟩ ∧
      ¬ MatchIsRight ⟨['*'], by decide⟩ ⟨['*', '*'], by decide⟩ := by
  constructor
  · -- The question mark moves the second pointer behind the zero that ends its string.
    rintro ⟨result, outcome, -⟩
    have behind : match_ (pointer ['?']) (pointer []) = none := (match_any _).trans (match_behind [])
    cases behind.symm.trans outcome
  · -- The star is compared with the first star of the text and spent on it.
    rintro ⟨result, outcome, agree⟩
    have missed : match_ (pointer ['*']) (pointer ['*', '*']) = some false :=
      (match_star_star (by simp) _).trans (match_nil_cons (by decide))
    have matched : Wildcards.Matches '*' '?' ['*'] ['*', '*'] := .run ['*', '*'] .done
    rw [missed] at outcome
    have result_ := agree.mpr matched
    simp [result_] at outcome

end Utils

end Fms
