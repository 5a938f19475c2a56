import Mathlib.Data.List.Nodup

/-! Reading a sorted list page by page, and where an element of it is found. -/

universe u

namespace Paging

variable {ρ : Type u}

/-- How many elements come before one. -/
def rank (before : ρ → ρ → Prop) [DecidableRel before] (element : ρ) (elements : List ρ) : Nat :=
  elements.countP fun other => decide (before other element)

/-- A position lies within a page. -/
def Within (offset size position : Nat) : Prop :=
  offset ≤ position ∧ position < offset + size

/-- It can be decided whether a position lies within a page. -/
instance decidableWithin (offset size position : Nat) : Decidable (Within offset size position) :=
  inferInstanceAs (Decidable (_ ∧ _))

/-- How many of the pages, each behind the one before it, find the position an element has at the time. -/
def hits (size : Nat) : Nat → List Nat → Nat
  | _, [] => 0
  | offset, position :: rest =>
    (if Within offset size position then 1 else 0) + hits size (offset + size) rest

variable {before : ρ → ρ → Prop} [DecidableRel before]

/-- The order of a list does not matter for what comes before an element. -/
theorem rank_perm {element : ρ} {left right : List ρ} (same : left.Perm right) :
    rank before element left = rank before element right :=
  same.countP_eq _

/-- An element comes before the end of its list. -/
theorem rank_lt_length {element : ρ} {elements : List ρ} (irreflexive : ¬ before element element)
    (member : element ∈ elements) : rank before element elements < elements.length := by
  -- The element itself does not count.
  refine Nat.lt_of_le_of_ne List.countP_le_length fun all => ?_
  have counted := List.countP_eq_length.mp all element member
  exact irreflexive (of_decide_eq_true counted)

/-- A page of a sorted list holds an element once if its rank lies within the page, and else not at all. -/
theorem count_page [DecidableEq ρ] {element : ρ} {elements : List ρ} (sorted : elements.Pairwise before)
    (asymmetric : ∀ left right, before left right → ¬ before right left)
    (member : element ∈ elements) (offset size : Nat) :
    ((elements.drop offset).take size).count element =
      if Within offset size (rank before element elements) then 1 else 0 := by
  have irreflexive (other : ρ) : ¬ before other other := fun self => asymmetric other other self self
  -- Each element the page skips, or begins with, takes one off the rank of those behind it.
  induction elements generalizing offset size with
  | nil => simp at member
  | cons first rest ih =>
    obtain ⟨ahead, sorted⟩ := List.pairwise_cons.mp sorted
    by_cases same : first = element
    · subst same
      have none_ : rank before first (first :: rest) = 0 := by
        refine List.countP_eq_zero.mpr fun other listed => ?_
        rcases List.mem_cons.mp listed with rfl | later
        · simpa using irreflexive other
        · simpa using asymmetric first other (ahead other later)
      have absent : first ∉ rest := fun later => irreflexive first (ahead first later)
      rw [none_]
      cases offset with
      | succ offset =>
        have gone : first ∉ (rest.drop offset).take size := fun later =>
          absent (List.mem_of_mem_drop (List.mem_of_mem_take later))
        simp [Within, List.count_eq_zero.mpr gone]
      | zero =>
        cases size with
        | zero => simp [Within]
        | succ size =>
          have gone : first ∉ rest.take size := fun later => absent (List.mem_of_mem_take later)
          simp [Within, List.count_eq_zero.mpr gone]
    · have later : element ∈ rest := (List.mem_cons.mp member).resolve_left (Ne.symm same)
      have behind : rank before element (first :: rest) = rank before element rest + 1 := by
        rw [rank, List.countP_cons_of_pos (by simpa using ahead element later), ← rank]
      rw [behind]
      cases offset with
      | succ offset =>
        rw [List.drop_succ_cons, ih sorted later]
        simp only [Within]
        congr 1
        exact propext (by omega)
      | zero =>
        cases size with
        | zero => simp [Within]
        | succ size =>
          have page := ih sorted later 0 size
          simp only [List.drop_zero] at page ⊢
          rw [List.take_succ_cons, List.count_cons_of_ne same, page]
          simp only [Within]
          congr 1
          exact propext (by omega)

end Paging
