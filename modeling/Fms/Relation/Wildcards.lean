import Mathlib.Data.List.Basic

/-! Patterns with wildcards, and the language of such a pattern. -/

namespace Wildcards

universe u

variable {α : Type u} (star any : α)

/--
A text is in the language of a pattern.

A star stands for any run of symbols, the other wildcard for exactly one, and every other symbol for itself.
-/
inductive Matches : List α → List α → Prop
  | done : Matches [] []
  | run (skipped : List α) {pattern text : List α} : Matches pattern text →
    Matches (star :: pattern) (skipped ++ text)
  | one (symbol : α) {pattern text : List α} : Matches pattern text →
    Matches (any :: pattern) (symbol :: text)
  | same {symbol : α} {pattern text : List α} : symbol ≠ star → symbol ≠ any → Matches pattern text →
    Matches (symbol :: pattern) (symbol :: text)

variable {star any}

/-- A star may stand for nothing. -/
theorem matches_star_none {pattern text : List α} (rest : Matches star any pattern text) :
    Matches star any (star :: pattern) text :=
  .run [] rest

/-- A star may stand for one symbol more. -/
theorem matches_star_more (symbol : α) {pattern text : List α} (rest : Matches star any (star :: pattern) text)
    (different : star ≠ any) : Matches star any (star :: pattern) (symbol :: text) := by
  -- The star is no other wildcard, and stands for a run that grows at its front.
  cases rest with
  | run skipped rest => exact .run (symbol :: skipped) rest
  | one _ _ => exact absurd rfl different
  | same unlike _ _ => exact absurd rfl unlike

/-- Two stars in a row have the language of one. -/
theorem matches_star_star {pattern text : List α} (rest : Matches star any (star :: pattern) text) :
    Matches star any (star :: star :: pattern) text :=
  matches_star_none rest

end Wildcards
