import Fms.Relation.Wildcards
import Mathlib.Data.List.Infix

/-! `Utils::match`, which walks two C strings by their pointers. -/

namespace Fms

/-- A text as a C string holds it: without a zero, which ends it. -/
structure CString where
  /-- The characters in front of the terminating zero. -/
  chars : List Char
  /-- No zero ends the text before its end. -/
  unterminated : '\x00' ∉ chars

namespace CString

/-- The array of a text, which is the pointer to its first character. -/
def pointer (text : List Char) : List Char := text ++ ['\x00']

/-- The array of the empty text holds the zero alone. -/
theorem pointer_nil : pointer [] = ['\x00'] := rfl

/-- A pointer to a character has the rest of the array behind it. -/
theorem pointer_cons (c : Char) (text : List Char) : pointer (c :: text) = c :: pointer text := rfl

/-- `*pointer`: a pointer is what its array holds from there on, and nothing can be read behind the array. -/
def deref (pointer : List Char) : Option Char := pointer.head?

end CString

namespace Utils

open CString

/-- How a call of `match` ends. -/
inductive MatchCall where
  /-- `return result`. -/
  | returns (result : Bool)
  /-- `return match(first, second)`. -/
  | next (first second : List Char)
  /-- `return match(first, second) || match(first', second')`. -/
  | either (first second first' second' : List Char)
  deriving DecidableEq, Repr

/-- `*pointer == c`. -/
def reads (pointer : List Char) (c : Char) : Option Bool := (deref pointer).map (· == c)

/-- `left && right`, which comes to its right side only where the left one holds. -/
def andAlso (left right : Option Bool) : Option Bool := do
  if ← left then right else return false

/-- `left || right`, which comes to its right side only where the left one does not hold. -/
def orElse (left right : Option Bool) : Option Bool := do
  if ← left then return true else right

/-- `while (*(first + 1) == '*') first++`, from a pointer that is at a star. -/
def skipStars : List Char → Option (List Char)
  | [] => none
  | star :: rest => do
    if ← reads rest '*' then skipStars rest else return star :: rest

/-- `if (*first == '*')` with that loop, which eliminates consecutive stars. -/
def eliminateStars (first : List Char) : Option (List Char) := do
  if ← reads first '*' then skipStars first else return first

/-- `*first == *second`. -/
def readsSame (first second : List Char) : Option Bool := do
  return (← deref first) == (← deref second)

/-- The body of `match`; none is a read behind the end of a string. -/
def matchBody (first second : List Char) : Option MatchCall := do
  if ← andAlso (reads first '\x00') (reads second '\x00') then
    return .returns true
  let first ← eliminateStars first
  if ← andAlso (reads first '*') (andAlso ((reads first.tail '\x00').map not) (reads second '\x00')) then
    return .returns false
  if ← orElse (reads first '?') (readsSame first second) then
    return .next first.tail second.tail
  if ← reads first '*' then
    return .either first.tail second first second.tail
  return .returns false

/-- Skipping stars drops characters only. -/
theorem skipStars_suffix {first skipped : List Char} (done : skipStars first = some skipped) :
    skipped <:+ first := by
  -- Every round of the loop drops one star.
  induction first with
  | nil => simp [skipStars] at done
  | cons star rest ih =>
    cases again : reads rest '*' with
    | none => simp [skipStars, again] at done
    | some more =>
      cases more with
      | true =>
        have later : skipStars rest = some skipped := by simpa [skipStars, again] using done
        exact (ih later).trans (List.suffix_cons star rest)
      | false =>
        have stays : star :: rest = skipped := by simpa [skipStars, again] using done
        rw [stays]

/-- Eliminating stars drops characters only. -/
theorem eliminateStars_suffix {first rest : List Char} (done : eliminateStars first = some rest) :
    rest <:+ first := by
  -- Without a star there is nothing to drop.
  cases star : reads first '*' with
  | none => simp [eliminateStars, star] at done
  | some present =>
    cases present with
    | true =>
      have skipped : skipStars first = some rest := by simpa [eliminateStars, star] using done
      exact skipStars_suffix skipped
    | false =>
      have stays : first = rest := by simpa [eliminateStars, star] using done
      rw [stays]

/-- What can be read can be passed. -/
theorem length_tail_of_reads {pointer : List Char} {c : Char} {result : Bool}
    (readable : reads pointer c = some result) : pointer.tail.length < pointer.length := by
  cases pointer with
  | nil => simp [reads, deref] at readable
  | cons _ _ => simp

/-- A disjunction that does not hold has read both of its sides. -/
theorem orElse_eq_false {left right : Option Bool} (fails : orElse left right = some false) :
    left = some false ∧ right = some false := by
  cases left with
  | none => simp [orElse] at fails
  | some result => cases result <;> simp_all [orElse]

/-- A disjunction has read its left side. -/
theorem left_of_orElse {left right : Option Bool} {result : Bool} (settled : orElse left right = some result) :
    ∃ first, left = some first := by
  cases left with
  | none => simp [orElse] at settled
  | some first => exact ⟨first, rfl⟩

/-- The characters two pointers have left. -/
def remaining (first second : List Char) : Nat := first.length + second.length

/-- Every call that `match` makes of itself has fewer characters left. -/
def MatchCall.Decreases (first second : List Char) : MatchCall → Prop
  | .returns _ => True
  | .next f s => remaining f s < remaining first second
  | .either f s f' s' => remaining f s < remaining first second ∧ remaining f' s' < remaining first second

/-- The body of `match` never calls itself with as many characters as it has been given. -/
theorem matchBody_decreases {first second : List Char} {call : MatchCall}
    (made : matchBody first second = some call) : call.Decreases first second := by
  -- Each call advances a pointer that has just been read, and stars have only been dropped before.
  simp only [matchBody, Option.bind_eq_bind] at made
  obtain ⟨ended, _, made⟩ := Option.bind_eq_some_iff.mp made
  split at made
  · obtain rfl : MatchCall.returns true = call := by simpa using made
    trivial
  obtain ⟨first', eliminated, made⟩ := Option.bind_eq_some_iff.mp made
  have shorter := (eliminateStars_suffix eliminated).length_le
  obtain ⟨refused, _, made⟩ := Option.bind_eq_some_iff.mp made
  split at made
  · obtain rfl : MatchCall.returns false = call := by simpa using made
    trivial
  obtain ⟨agree, settled, made⟩ := Option.bind_eq_some_iff.mp made
  split at made
  · -- Both pointers advance.
    obtain rfl : MatchCall.next first'.tail second.tail = call := by simpa using made
    obtain ⟨mark, readable⟩ := left_of_orElse settled
    have passed := length_tail_of_reads readable
    have others := second.length_tail
    simp only [MatchCall.Decreases, remaining]
    omega
  rename_i differ
  obtain ⟨star, atStar, made⟩ := Option.bind_eq_some_iff.mp made
  split at made
  · -- One of the pointers advances, and the second one has been compared with the first.
    obtain rfl : MatchCall.either first'.tail second first' second.tail = call := by simpa using made
    have passed := length_tail_of_reads atStar
    have unlike : agree = false := by simpa using differ
    have compared := (orElse_eq_false (unlike ▸ settled)).2
    have others : second.tail.length < second.length := by
      cases second with
      | nil => simp [readsSame, deref] at compared
      | cons _ _ => simp
    simp only [MatchCall.Decreases, remaining]
    omega
  · obtain rfl : MatchCall.returns false = call := by simpa using made
    trivial

/-- `match`. -/
def match_ (first second : List Char) : Option Bool :=
  match _made : matchBody first second with
  | none => none
  | some (.returns result) => some result
  | some (.next f s) => match_ f s
  | some (.either f s f' s') => orElse (match_ f s) (match_ f' s')
termination_by remaining first second
decreasing_by
  · exact matchBody_decreases _made
  · exact (matchBody_decreases _made).1
  · exact (matchBody_decreases _made).2

/-- A call that returns is the outcome. -/
theorem match_of_returns {first second : List Char} {result : Bool}
    (body : matchBody first second = some (.returns result)) : match_ first second = some result := by
  rw [match_]
  split <;> simp_all

/-- A call that is passed on has the outcome of the next one. -/
theorem match_of_next {first second f s : List Char} (body : matchBody first second = some (.next f s)) :
    match_ first second = match_ f s := by
  rw [match_]
  split <;> simp_all

/-- A disjunction of two calls comes to the second one where the first returns false. -/
theorem match_of_either {first second f s f' s' : List Char}
    (body : matchBody first second = some (.either f s f' s')) :
    match_ first second = orElse (match_ f s) (match_ f' s') := by
  rw [match_]
  split <;> simp_all

/-- A read behind the end of a string leaves no outcome. -/
theorem match_of_none {first second : List Char} (body : matchBody first second = none) :
    match_ first second = none := by
  rw [match_]
  split <;> simp_all

/-- Calls with the same body have the same outcome. -/
theorem match_congr {first second first' second' : List Char}
    (same : matchBody first second = matchBody first' second') : match_ first second = match_ first' second' := by
  -- The outcome is determined by the body.
  cases body : matchBody first' second' with
  | none => rw [match_of_none body, match_of_none (same.trans body)]
  | some call =>
    cases call with
    | returns result => rw [match_of_returns body, match_of_returns (same.trans body)]
    | next f s => rw [match_of_next body, match_of_next (same.trans body)]
    | either f s f' s' => rw [match_of_either body, match_of_either (same.trans body)]

section Steps

variable {pattern text : List Char}

/-- The first of two stars is eliminated. -/
theorem eliminateStars_stars :
    eliminateStars (pointer ('*' :: '*' :: pattern)) = eliminateStars (pointer ('*' :: pattern)) := by
  simp [eliminateStars, pointer, reads, deref, skipStars]

/-- The last star stays. -/
theorem eliminateStars_star (single : pattern.head? ≠ some '*') :
    eliminateStars (pointer ('*' :: pattern)) = some (pointer ('*' :: pattern)) := by
  -- Another symbol follows it, or the end of the pattern.
  cases pattern with
  | nil => decide
  | cons symbol rest =>
    have other : symbol ≠ '*' := by simpa using single
    simp [eliminateStars, pointer, reads, deref, skipStars, other]

/-- Two texts that end together match. -/
theorem match_nil_nil : match_ (pointer []) (pointer []) = some true :=
  match_of_returns (by decide)

/-- A pattern that has ended matches no further character. -/
theorem match_nil_cons {c : Char} (more : c ≠ '\x00') : match_ (pointer []) (pointer (c :: text)) = some false :=
  match_of_returns (by
    simp [matchBody, pointer, andAlso, orElse, reads, readsSame, deref, eliminateStars, more, Ne.symm more])

/-- A question mark advances both pointers, whatever the second one is at. -/
theorem match_any (second : List Char) :
    match_ (pointer ('?' :: pattern)) second = match_ (pointer pattern) second.tail :=
  match_of_next (by simp [matchBody, pointer, andAlso, orElse, reads, deref, eliminateStars])

/-- A symbol that is no wildcard is compared with the next character. -/
theorem match_symbol {symbol c : Char} {rest : List Char}
    (symbolic : symbol ≠ '*' ∧ symbol ≠ '?' ∧ symbol ≠ '\x00') :
    match_ (pointer (symbol :: pattern)) (c :: rest) =
      if symbol = c then match_ (pointer pattern) rest else some false := by
  -- It is neither the end of the pattern nor a star nor a question mark.
  obtain ⟨single, plain, inside⟩ := symbolic
  by_cases same : symbol = c
  · subst same
    rw [if_pos rfl]
    exact match_of_next (by
      simp [matchBody, pointer, andAlso, orElse, reads, readsSame, deref, eliminateStars, single, inside])
  · rw [if_neg same]
    exact match_of_returns (by
      simp [matchBody, pointer, andAlso, orElse, reads, readsSame, deref, eliminateStars, single, plain, inside,
        same])

/-- Two stars in a row are one. -/
theorem match_stars (second : List Char) :
    match_ (pointer ('*' :: '*' :: pattern)) second = match_ (pointer ('*' :: pattern)) second := by
  -- Both are the same once the first star is eliminated.
  refine match_congr ?_
  unfold matchBody
  rw [eliminateStars_stars]
  simp [pointer, andAlso, reads, deref]

/-- A last star matches the end of a text, and any other star does not. -/
theorem match_star_nil (inside : '\x00' ∉ pattern) (single : pattern.head? ≠ some '*') :
    match_ (pointer ('*' :: pattern)) (pointer []) = some pattern.isEmpty := by
  -- The symbol behind the star decides.
  cases pattern with
  | nil =>
    have body : matchBody (pointer ['*']) (pointer []) =
        some (.either (pointer []) (pointer []) (pointer ['*']) []) := by
      decide
    rw [match_of_either body, match_nil_nil]
    rfl
  | cons symbol rest =>
    have other : symbol ≠ '\x00' := by
      rintro rfl
      exact inside List.mem_cons_self
    refine match_of_returns ?_
    unfold matchBody
    rw [eliminateStars_star single]
    simp [pointer, andAlso, reads, deref, other]

/-- A star that meets a star of the text takes it for its own, and stops. -/
theorem match_star_star (single : pattern.head? ≠ some '*') (rest : List Char) :
    match_ (pointer ('*' :: pattern)) ('*' :: rest) = match_ (pointer pattern) rest := by
  -- The characters are equal, which is tested before the star.
  refine match_of_next ?_
  unfold matchBody
  rw [eliminateStars_star single]
  cases pattern with
  | nil => simp [pointer, andAlso, orElse, reads, readsSame, deref]
  | cons symbol rest => simp [pointer, andAlso, orElse, reads, readsSame, deref]

/-- In front of any other character a star stops, or else takes the character. -/
theorem match_star_cons (single : pattern.head? ≠ some '*') {c : Char} (other : c ≠ '*') (more : c ≠ '\x00')
    (rest : List Char) :
    match_ (pointer ('*' :: pattern)) (c :: rest) =
      orElse (match_ (pointer pattern) (c :: rest)) (match_ (pointer ('*' :: pattern)) rest) := by
  -- The characters differ, so the star is what is left to test.
  refine match_of_either ?_
  unfold matchBody
  rw [eliminateStars_star single]
  cases pattern with
  | nil => simp [pointer, andAlso, orElse, reads, readsSame, deref, Ne.symm other]
  | cons symbol rest =>
    have unlike : (c == '\x00') = false := by simpa using more
    simp [pointer, andAlso, orElse, reads, readsSame, deref, unlike, Ne.symm other]

/-- Behind the end of the second text there is nothing that could be compared. -/
theorem match_behind (pattern : List Char) : match_ (pointer pattern) [] = none := by
  -- Question marks do not compare, so the end of the pattern is met at the latest.
  induction pattern with
  | nil => exact match_of_none (by decide)
  | cons symbol rest ih =>
    by_cases plain : symbol = '?'
    · subst plain
      rw [match_any]
      exact ih
    · by_cases star : symbol = '*'
      · subst star
        by_cases single : rest.head? = some '*'
        · obtain ⟨others, rfl⟩ := List.head?_eq_some_iff.mp single
          rw [match_stars]
          exact ih
        · refine match_of_none ?_
          unfold matchBody
          rw [eliminateStars_star single]
          cases rest <;> simp [pointer, andAlso, orElse, reads, readsSame, deref]
      · refine match_of_none ?_
        unfold matchBody
        simp [pointer, andAlso, orElse, reads, readsSame, deref, eliminateStars, star, plain]

end Steps

end Utils

end Fms
