import Fms.Framework.WildcardMatch

/-! What the attempts of `Utils::match` find, and where they leave the language of a pattern. -/

namespace Fms

namespace Utils

open CString

/--
An attempt spends symbols of a pattern on the whole of a text, and has the rest of the pattern left.

A star takes characters up to a star of the text, which it takes as its last, or stops in front of another character.
At the end of the text it stops only as the last symbol of the pattern.
-/
inductive Attempt : List Char → List Char → List Char → Prop
  | spent (rest : List Char) : Attempt rest [] rest
  | one (c : Char) {pattern text rest : List Char} : Attempt pattern text rest →
    Attempt ('?' :: pattern) (c :: text) rest
  | same {symbol : Char} {pattern text rest : List Char} : symbol ≠ '*' → symbol ≠ '?' →
    Attempt pattern text rest → Attempt (symbol :: pattern) (symbol :: text) rest
  | again {pattern text rest : List Char} : Attempt ('*' :: pattern) text rest →
    Attempt ('*' :: '*' :: pattern) text rest
  | last : Attempt ['*'] [] []
  | meets {pattern text rest : List Char} : pattern.head? ≠ some '*' → Attempt pattern text rest →
    Attempt ('*' :: pattern) ('*' :: text) rest
  | stops {pattern text rest : List Char} {c : Char} : pattern.head? ≠ some '*' → c ≠ '*' →
    Attempt pattern (c :: text) rest → Attempt ('*' :: pattern) (c :: text) rest
  | takes {pattern text rest : List Char} {c : Char} : pattern.head? ≠ some '*' → c ≠ '*' →
    Attempt ('*' :: pattern) text rest → Attempt ('*' :: pattern) (c :: text) rest

variable {pattern text rest : List Char}

/-- Nothing is left of an empty pattern, and it spends nothing. -/
theorem attempt_nil_iff : Attempt [] text rest ↔ text = [] ∧ rest = [] := by
  -- Only the rule for a spent pattern starts from none.
  constructor
  · rintro ⟨⟩
    exact ⟨rfl, rfl⟩
  · rintro ⟨rfl, rfl⟩
    exact .spent []

/-- A question mark spends any character. -/
theorem attempt_one_iff {c : Char} : Attempt ('?' :: pattern) (c :: text) rest ↔ Attempt pattern text rest := by
  -- Only one rule lets a question mark take a character.
  constructor
  · intro attempt
    cases attempt with
    | one _ later => exact later
    | same _ unlike _ => exact absurd rfl unlike
  · exact .one c

/-- A symbol that is no wildcard spends itself. -/
theorem attempt_symbol_iff {symbol c : Char} (single : symbol ≠ '*') (plain : symbol ≠ '?') :
    Attempt (symbol :: pattern) (c :: text) rest ↔ symbol = c ∧ Attempt pattern text rest := by
  -- Only one rule starts from such a symbol and a character.
  constructor
  · intro attempt
    cases attempt with
    | one _ _ => exact absurd rfl plain
    | same _ _ later => exact ⟨rfl, later⟩
    | again _ => exact absurd rfl single
    | meets _ _ => exact absurd rfl single
    | stops _ _ _ => exact absurd rfl single
    | takes _ _ _ => exact absurd rfl single
  · rintro ⟨rfl, later⟩
    exact .same single plain later

/-- A symbol that is no star spends nothing at the end of a text. -/
theorem attempt_symbol_nil_iff {symbol : Char} (single : symbol ≠ '*') :
    Attempt (symbol :: pattern) [] rest ↔ rest = symbol :: pattern := by
  -- At the end of a text only a star goes on.
  constructor
  · intro attempt
    cases attempt with
    | spent _ => rfl
    | again _ => exact absurd rfl single
    | last => exact absurd rfl single
  · rintro rfl
    exact .spent _

/-- Two stars in a row attempt what one does, unless nothing has been attempted. -/
theorem attempt_stars_iff (fewer : rest.head? ≠ some '*') :
    Attempt ('*' :: '*' :: pattern) text rest ↔ Attempt ('*' :: pattern) text rest := by
  -- The rules for a single star ask for another symbol behind it.
  constructor
  · intro attempt
    cases attempt with
    | spent _ => simp at fewer
    | same unlike _ _ => exact absurd rfl unlike
    | again later => exact later
    | meets single _ => simp at single
    | stops single _ _ => simp at single
    | takes single _ _ => simp at single
  · exact .again

/-- At a star of the text a star takes it and stops. -/
theorem attempt_meets_iff (single : pattern.head? ≠ some '*') :
    Attempt ('*' :: pattern) ('*' :: text) rest ↔ Attempt pattern text rest := by
  -- The other rules of a star ask for another character or another star.
  constructor
  · intro attempt
    cases attempt with
    | same unlike _ _ => exact absurd rfl unlike
    | again _ => simp at single
    | meets _ later => exact later
    | stops _ unlike _ => exact absurd rfl unlike
    | takes _ unlike _ => exact absurd rfl unlike
  · exact .meets single

/-- At any other character it stops or takes the character. -/
theorem attempt_star_iff (single : pattern.head? ≠ some '*') {c : Char} (other : c ≠ '*') :
    Attempt ('*' :: pattern) (c :: text) rest ↔
      Attempt pattern (c :: text) rest ∨ Attempt ('*' :: pattern) text rest := by
  -- A single star that meets no star has these two rules.
  constructor
  · intro attempt
    cases attempt with
    | same unlike _ _ => exact absurd rfl unlike
    | again _ => simp at single
    | meets _ _ => exact absurd rfl other
    | stops _ _ later => exact .inl later
    | takes _ _ later => exact .inr later
  · rintro (later | later)
    · exact .stops single other later
    · exact .takes single other later

/-- At the end of a text only a last star leaves anything else than itself with the pattern behind it. -/
theorem attempt_star_nil_iff (single : pattern.head? ≠ some '*') (fewer : rest.head? ≠ some '*') :
    Attempt ('*' :: pattern) [] rest ↔ pattern = [] ∧ rest = [] := by
  -- What begins with a star has not been spent.
  constructor
  · intro attempt
    cases attempt with
    | spent _ => simp at fewer
    | again _ => simp at single
    | last => exact ⟨rfl, rfl⟩
  · rintro ⟨rfl, rfl⟩
    exact .last

/-- A finished attempt of a star has come to the pattern behind it somewhere. -/
theorem attempt_behind_star (single : pattern.head? ≠ some '*') (finished : Attempt ('*' :: pattern) text []) :
    ∃ later, later <:+ text ∧ Attempt pattern later [] := by
  -- The star takes characters until it stops.
  induction text with
  | nil =>
    obtain ⟨rfl, -⟩ := (attempt_star_nil_iff single (by simp)).mp finished
    exact ⟨[], List.suffix_refl _, .spent []⟩
  | cons c text ih =>
    by_cases other : c = '*'
    · subst other
      exact ⟨text, List.suffix_cons _ _, (attempt_meets_iff single).mp finished⟩
    · rcases (attempt_star_iff single other).mp finished with stopped | taken
      · exact ⟨c :: text, List.suffix_refl _, stopped⟩
      · obtain ⟨later, behind, attempt⟩ := ih taken
        exact ⟨later, behind.trans (List.suffix_cons _ _), attempt⟩

/-- The end of a text behind one character is an end of what follows the first one. -/
theorem suffix_of_cons {α : Type} {c d : α} {back text : List α} (behind : d :: back <:+ c :: text) :
    back <:+ text := by
  -- It is the same end or a shorter one.
  rcases List.suffix_cons_iff.mp behind with same | shorter
  · cases same
    exact List.suffix_refl _
  · exact (List.suffix_cons d back).trans shorter

/-- An attempt that succeeds on an end of the text leaves a way for one that is left with a question mark. -/
theorem attempt_overtaken {back : List Char} (early : Attempt pattern text ('?' :: rest))
    (late : Attempt pattern back []) (behind : back <:+ text) : Attempt pattern text [] := by
  -- By the attempt that started earlier; at a star, the other one says where to stop.
  generalize left : '?' :: rest = unmatched at early
  induction early generalizing back with
  | spent _ =>
    obtain rfl := List.suffix_nil.mp behind
    exact late
  | one c _ ih =>
    cases back with
    | nil => cases late
    | cons _ _ => exact .one c (ih (attempt_one_iff.mp late) (suffix_of_cons behind) left)
  | same single plain _ ih =>
    cases back with
    | nil => cases late <;> exact absurd rfl single
    | cons _ _ =>
      obtain ⟨-, late⟩ := (attempt_symbol_iff single plain).mp late
      exact .same single plain (ih late (suffix_of_cons behind) left)
  | again _ ih => exact .again (ih ((attempt_stars_iff (by simp)).mp late) behind left)
  | last => cases left
  | meets single _ ih =>
    rcases List.suffix_cons_iff.mp behind with rfl | shorter
    · exact late
    · obtain ⟨later, nearer, found⟩ := attempt_behind_star single late
      exact .meets single (ih found (nearer.trans shorter) left)
  | stops single other _ ih =>
    obtain ⟨later, nearer, found⟩ := attempt_behind_star single late
    exact .stops single other (ih found (nearer.trans behind) left)
  | takes single other _ ih =>
    rcases List.suffix_cons_iff.mp behind with rfl | shorter
    · exact late
    · exact .takes single other (ih late shorter left)

/-- What an attempt finishes is in the language of the pattern. -/
theorem matches_of_attempt (finished : Attempt pattern text []) : Wildcards.Matches '*' '?' pattern text := by
  -- Each rule of an attempt is one of the language, where a star takes its characters one by one.
  generalize left : [] = unmatched at finished
  induction finished with
  | spent _ =>
    subst left
    exact .done
  | one c _ ih => exact .one c (ih left)
  | same single plain _ ih => exact .same single plain (ih left)
  | again _ ih => exact Wildcards.matches_star_star (ih left)
  | last => exact .run [] .done
  | meets _ _ ih => exact .run ['*'] (ih left)
  | stops _ _ _ ih => exact Wildcards.matches_star_none (ih left)
  | takes _ _ _ ih => exact Wildcards.matches_star_more _ (ih left) (by decide)

/-- What an outcome of `match` says about the attempts on a text; none is a read behind the end of the text. -/
def Found (pattern text : List Char) : Option Bool → Prop
  | some true => Attempt pattern text []
  | some false => ¬ Attempt pattern text [] ∧ ∀ rest, ¬ Attempt pattern text ('?' :: rest)
  | none => ¬ Attempt pattern text [] ∧ ∃ rest, Attempt pattern text ('?' :: rest)

/-- Where the same attempts are possible, an outcome says the same. -/
theorem found_congr {pattern' text' : List Char} {outcome : Option Bool}
    (finished : Attempt pattern text [] ↔ Attempt pattern' text' [])
    (pending : ∀ rest, Attempt pattern text ('?' :: rest) ↔ Attempt pattern' text' ('?' :: rest))
    (found : Found pattern' text' outcome) : Found pattern text outcome := by
  -- An outcome is about attempts that leave nothing or a question mark.
  rcases outcome with - | - | - <;> simp only [Found, finished, pending] at found ⊢ <;> exact found

/-- A star tries to stop before it takes a character, and what it finds first is what there is to find. -/
theorem found_star (single : pattern.head? ≠ some '*') {c : Char} (other : c ≠ '*')
    {stopping taking : Option Bool} (stopped : Found pattern (c :: text) stopping)
    (taken : Found ('*' :: pattern) text taking) :
    Found ('*' :: pattern) (c :: text) (orElse stopping taking) := by
  -- By what has been found where the star stops.
  rcases stopping with - | - | -
  · -- An attempt that took the character and succeeded would have left a way to succeed without it.
    obtain ⟨missed, rest, pending⟩ := stopped
    refine ⟨fun finished => ?_, rest, .stops single other pending⟩
    rcases (attempt_star_iff single other).mp finished with here | further
    · exact missed here
    · obtain ⟨later, nearer, found⟩ := attempt_behind_star single further
      exact missed (attempt_overtaken pending found (nearer.trans (List.suffix_cons _ _)))
  · -- Nothing has been found, and the other attempts are those that take the character.
    obtain ⟨missed, never⟩ := stopped
    refine found_congr ?_ (fun rest => ?_) taken
    · simp only [attempt_star_iff single other, missed, false_or]
    · simp only [attempt_star_iff single other, never rest, false_or]
  · exact .stops single other stopped

/-- A pattern finds what its attempts can find, on every text that a C string holds. -/
def Finds (pattern : List Char) : Prop :=
  ∀ text, '\x00' ∉ text → Found pattern text (match_ (pointer pattern) (pointer text))

/-- The empty pattern finds the end of a text. -/
theorem finds_nil : Finds [] := by
  -- There is nothing to attempt but the end.
  intro text inside
  cases text with
  | nil =>
    rw [match_nil_nil]
    exact .spent []
  | cons c text =>
    have more : c ≠ '\x00' := fun zero => inside (zero ▸ List.mem_cons_self)
    rw [match_nil_cons more]
    simp [Found, attempt_nil_iff]

/-- A question mark finds what the pattern behind it finds behind one character, or the end of the text. -/
theorem finds_one (ih : Finds pattern) : Finds ('?' :: pattern) := by
  intro text inside
  rw [match_any]
  cases text with
  | nil =>
    -- There is no character left to stand for the question mark.
    have behind : match_ (pointer pattern) (pointer []).tail = none := match_behind pattern
    rw [behind]
    simp [Found, attempt_symbol_nil_iff]
  | cons c text =>
    exact found_congr attempt_one_iff (fun _ => attempt_one_iff)
      (ih text fun zero => inside (List.mem_cons_of_mem _ zero))

/-- Any other symbol finds what the pattern behind it finds, if it is the next character. -/
theorem finds_symbol {symbol : Char} (symbolic : symbol ≠ '*' ∧ symbol ≠ '?' ∧ symbol ≠ '\x00')
    (ih : Finds pattern) : Finds (symbol :: pattern) := by
  -- Both the call and an attempt compare one character and go on behind it.
  obtain ⟨star, plain, inside_⟩ := symbolic
  intro text inside
  cases text with
  | nil =>
    rw [pointer_nil, match_symbol ⟨star, plain, inside_⟩, if_neg inside_]
    simp [Found, attempt_symbol_nil_iff star, Ne.symm plain]
  | cons c text =>
    rw [pointer_cons c text, match_symbol ⟨star, plain, inside_⟩]
    have either : ∀ rest, Attempt (symbol :: pattern) (c :: text) rest ↔ symbol = c ∧ Attempt pattern text rest :=
      fun rest => attempt_symbol_iff star plain
    by_cases same : symbol = c
    · have passed : ∀ rest, Attempt (symbol :: pattern) (c :: text) rest ↔ Attempt pattern text rest :=
        fun rest => (either rest).trans (and_iff_right same)
      rw [if_pos same]
      exact found_congr (passed []) (fun _ => passed _) (ih text fun zero => inside (List.mem_cons_of_mem _ zero))
    · rw [if_neg same]
      simp [Found, either, same]

/-- A single star finds what the pattern behind it finds at some character it stops at. -/
theorem finds_star (single : pattern.head? ≠ some '*') (within : '\x00' ∉ pattern) (ih : Finds pattern) :
    Finds ('*' :: pattern) := by
  -- By the characters of the text, which the star takes one by one.
  intro text inside
  induction text with
  | nil =>
    rw [match_star_nil within single]
    cases pattern with
    | nil => exact .last
    | cons next others =>
      have never : ∀ rest : List Char, rest.head? ≠ some '*' → ¬ Attempt ('*' :: next :: others) [] rest :=
        fun rest fewer attempt => by simpa using (attempt_star_nil_iff single fewer).mp attempt
      exact ⟨never [] (by simp), fun rest => never _ (by simp)⟩
  | cons c text further =>
    have later : '\x00' ∉ text := fun zero => inside (List.mem_cons_of_mem _ zero)
    have more : c ≠ '\x00' := fun zero => inside (zero ▸ List.mem_cons_self)
    rw [pointer_cons c text]
    by_cases other : c = '*'
    · subst other
      rw [match_star_star single]
      exact found_congr (attempt_meets_iff single) (fun _ => attempt_meets_iff single) (ih text later)
    · rw [match_star_cons single other more]
      exact found_star single other (ih (c :: text) inside) (further later)

/-- Two stars in a row find what one does. -/
theorem finds_stars (ih : Finds ('*' :: pattern)) : Finds ('*' :: '*' :: pattern) := by
  intro text inside
  rw [match_stars]
  exact found_congr (attempt_stars_iff (by simp)) (fun _ => attempt_stars_iff (by simp)) (ih text inside)

/-- A call of `match` finds what the attempts on the text can find. -/
theorem found_match (pattern : List Char) (whole : '\x00' ∉ pattern) : Finds pattern := by
  -- By the symbols of the pattern.
  induction pattern with
  | nil => exact finds_nil
  | cons symbol pattern ih =>
    have within : '\x00' ∉ pattern := fun zero => whole (List.mem_cons_of_mem _ zero)
    have symbolic : symbol ≠ '\x00' := fun zero => whole (zero ▸ List.mem_cons_self)
    by_cases star : symbol = '*'
    · subst star
      by_cases single : pattern.head? = some '*'
      · obtain ⟨others, rfl⟩ := List.head?_eq_some_iff.mp single
        exact finds_stars (ih within)
      · exact finds_star single within (ih within)
    · by_cases plain : symbol = '?'
      · subst plain
        exact finds_one (ih within)
      · exact finds_symbol ⟨star, plain, symbolic⟩ (ih within)

end Utils

end Fms
