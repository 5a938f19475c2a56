import Mathlib.Data.List.Basic
import Mathlib.Data.Nat.ModEq
import Mathlib.Logic.Function.Basic

/-! Lists that are stored around a ring of cells, from some cell on. -/

namespace Ring

universe u

variable {α : Type u} {size : Nat}

/-- The cell some places behind another one, around the ring. -/
def cell (start : Fin size) (places : Nat) : Fin size :=
  ⟨(start.val + places) % size, Nat.mod_lt _ start.pos⟩

/-- The next cell, which is the first one behind the last. -/
def next (place : Fin size) : Fin size :=
  if last : place.val + 1 = size then ⟨0, place.pos⟩ else ⟨place.val + 1, by omega⟩

/-- A list is stored in the cells from a start on. -/
structure Holds (cells : Fin size → α) (start : Fin size) (contents : List α) : Prop where
  /-- There are as many cells. -/
  room : contents.length ≤ size
  /-- Every element stands in its cell. -/
  stored : ∀ place (inside : place < contents.length), cells (cell start place) = contents[place]

/-- The next cell is the one a single place behind. -/
theorem next_eq_cell (place : Fin size) : next place = cell place 1 := by
  -- The remainder only matters behind the last cell.
  have inside := place.isLt
  unfold next cell
  split
  · rename_i last
    simp [last]
  · simp only [Fin.mk.injEq]
    exact (Nat.mod_eq_of_lt (by omega)).symm

/-- The cells behind the next one are those one place further. -/
theorem cell_next (start : Fin size) (places : Nat) : cell (next start) places = cell start (places + 1) := by
  rw [next_eq_cell]
  simp only [cell, Nat.mod_add_mod, Nat.add_assoc, Nat.add_comm 1 places]

/-- The cell at a start itself. -/
theorem cell_zero (start : Fin size) : cell start 0 = start := by
  simp [cell, Nat.mod_eq_of_lt start.isLt]

/-- A step behind some cell is one place further. -/
theorem next_cell (start : Fin size) (places : Nat) : next (cell start places) = cell start (places + 1) := by
  rw [next_eq_cell]
  simp only [cell, Nat.mod_add_mod, Nat.add_assoc]

/-- Within one round, different places are different cells. -/
theorem cell_inj (start : Fin size) {left right : Nat} (inside : left < size ∧ right < size)
    (same : cell start left = cell start right) : left = right := by
  have values : (start.val + left) % size = (start.val + right) % size := by simpa [cell] using same
  exact Nat.ModEq.eq_of_lt_of_lt (Nat.ModEq.add_left_cancel' start.val values) inside.1 inside.2

/-- A round leads back to the start exactly after no places or all of them. -/
theorem cell_eq_start_iff (start : Fin size) {places : Nat} (round : places ≤ size) :
    cell start places = start ↔ places = 0 ∨ places = size := by
  -- Fewer places than a round lead to another cell.
  constructor
  · intro back
    by_cases whole : places = size
    · exact .inr whole
    · exact .inl (cell_inj start ⟨by omega, start.pos⟩ (back.trans (cell_zero start).symm))
  · intro either
    rcases either with rfl | rfl
    · exact cell_zero start
    · simp [cell, Nat.mod_eq_of_lt start.isLt]

variable {cells : Fin size → α} {start : Fin size} {contents : List α}

/-- No cell is needed for an empty list. -/
theorem holds_nil (cells : Fin size → α) (start : Fin size) : Holds cells start [] where
  room := by simp
  stored place inside := by simp at inside

/-- An element that is put into the cell behind a list is stored behind it, if there is a cell left. -/
theorem Holds.append (holds : Holds cells start contents) (free : contents.length < size) (element : α) :
    Holds (Function.update cells (cell start contents.length) element) start (contents ++ [element]) where
  room := by
    rw [List.length_append]
    exact free
  stored place inside := by
    -- The other elements stand in other cells.
    by_cases last : place = contents.length
    · subst last
      simp
    · have before : place < contents.length := by
        rw [List.length_append, List.length_singleton] at inside
        omega
      have other : cell start place ≠ cell start contents.length :=
        fun same => last (cell_inj start ⟨by omega, free⟩ same)
      rw [List.getElem_append_left before, Function.update_of_ne other]
      exact holds.stored place before

/-- The first element stands at the start, and the others are stored behind it. -/
theorem Holds.tail {first : α} {rest : List α} (holds : Holds cells start (first :: rest)) :
    cells start = first ∧ Holds cells (next start) rest := by
  -- The element at some place of the rest is the next one of the list.
  refine ⟨?_, ⟨Nat.le_of_succ_le holds.room, fun place inside => ?_⟩⟩
  · have stored := holds.stored 0 (by simp)
    rwa [cell_zero] at stored
  · have stored := holds.stored (place + 1) (by simpa using inside)
    rw [cell_next]
    simpa using stored

end Ring
