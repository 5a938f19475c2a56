import Mathlib.Data.List.Basic

/-! Times of which no two lie in one window of a given width. -/

namespace Window

/-- The times that lie in the window that starts at a time. -/
def within (width start : Nat) (times : List Nat) : List Nat :=
  times.filter fun time => decide (start ≤ time) && decide (time < start + width)

/-- At most one of the times lies in any window. -/
def Sparse (width : Nat) (times : List Nat) : Prop :=
  ∀ start, (within width start times).length ≤ 1

/-- No times are sparse. -/
theorem sparse_nil (width : Nat) : Sparse width [] := fun _ => by simp [within]

/-- The times after the first ones are as sparse as all of them. -/
theorem Sparse.of_append {width : Nat} {added times : List Nat} (sparse : Sparse width (added ++ times)) :
    Sparse width times := by
  -- Leaving times out takes none into a window.
  intro start
  have all := sparse start
  rw [within, List.filter_append, List.length_append] at all
  exact Nat.le_trans (Nat.le_add_left _ _) all

/-- A latest time leaves the times sparse exactly when all the others are a window's width before it. -/
theorem sparse_cons_iff {width time : Nat} {times : List Nat} (latest : ∀ earlier ∈ times, earlier ≤ time) :
    Sparse width (time :: times) ↔ (∀ earlier ∈ times, earlier + width ≤ time) ∧ Sparse width times := by
  constructor
  · intro sparse
    refine ⟨fun earlier member => ?_, Sparse.of_append (show Sparse width ([time] ++ times) from sparse)⟩
    -- A window that starts with an earlier time holds it, so the latest time lies behind.
    by_contra close
    have order := latest earlier member
    have inside : earlier ∈ within width earlier times :=
      List.mem_filter.mpr ⟨member, by simp; omega⟩
    have both := sparse earlier
    have first : within width earlier (time :: times) = time :: within width earlier times :=
      List.filter_cons_of_pos (by simp; omega)
    rw [first, List.length_cons] at both
    have none_ : within width earlier times = [] := List.eq_nil_of_length_eq_zero (by omega)
    rw [none_] at inside
    exact absurd inside List.not_mem_nil
  · rintro ⟨apart, sparse⟩ start
    by_cases inside : start ≤ time ∧ time < start + width
    · -- Every other time lies before the window.
      have none_ : within width start times = [] := by
        refine List.filter_eq_nil_iff.mpr fun earlier member => ?_
        have distance := apart earlier member
        simp
        omega
      have first : within width start (time :: times) = time :: within width start times :=
        List.filter_cons_of_pos (by simp; omega)
      rw [first, none_]
      exact Nat.le_refl 1
    · have first : within width start (time :: times) = within width start times :=
        List.filter_cons_of_neg (by simp; omega)
      rw [first]
      exact sparse start

end Window
