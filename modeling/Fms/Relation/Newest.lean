import Mathlib.Data.List.Nodup
import Mathlib.Data.List.Induction
import Mathlib.Order.Lattice

/-! The last of the highest-ranked elements of a list, found by one pass from the left. -/

universe u v

namespace Newest

variable {α : Type u} {β : Type v} [LinearOrder β] {rank : α → β}

/-- Keep the better of the best element so far and the next one, the next one on a tie. -/
@[grind =]
def newer (rank : α → β) (best : Option α) (next : α) : Option α :=
  match best with
  | none => some next
  | some kept => if rank kept ≤ rank next then some next else some kept

/-- The last of the highest-ranked elements. -/
def newest (rank : α → β) (elements : List α) : Option α :=
  elements.foldl (newer rank) none

@[simp] theorem newest_nil : newest rank [] = none := rfl

/-- One more element is compared with the best one before it. -/
theorem newest_append_singleton (elements : List α) (next : α) :
    newest rank (elements ++ [next]) = newer rank (newest rank elements) next := by
  -- The pass is a fold, and the last element is the last one folded in.
  simp [newest]

/-- The newest element splits the list into elements not above it and elements below it. -/
def IsNewest (rank : α → β) (elements : List α) (best : α) : Prop :=
  ∃ front back, elements = front ++ best :: back ∧
    (∀ x ∈ front, rank x ≤ rank best) ∧ ∀ x ∈ back, rank x < rank best

/-- Only the empty list has no newest element. -/
theorem newest_eq_none {elements : List α} : newest rank elements = none ↔ elements = [] := by
  -- After an element the pass always holds one.
  constructor
  · intro none_
    rcases elements.eq_nil_or_concat' with empty | ⟨front, last, rfl⟩
    · exact empty
    · rw [newest_append_singleton] at none_
      cases before : newest rank front with
      | none => simp [before, newer] at none_
      | some kept =>
        simp only [before, newer] at none_
        split at none_ <;> contradiction
  · rintro rfl
    rfl

/-- The pass finds a newest element. -/
theorem isNewest_of_newest {elements : List α} {best : α} (found : newest rank elements = some best) :
    IsNewest rank elements best := by
  -- The last element either takes the place of the best one or stays below it.
  induction elements using List.reverseRecOn generalizing best with
  | nil => simp at found
  | append_singleton front last ih =>
    rw [newest_append_singleton] at found
    cases before : newest rank front with
    | none =>
      simp only [before, newer, Option.some.injEq] at found
      subst found
      have empty := newest_eq_none.mp before
      subst empty
      exact ⟨[], [], by simp⟩
    | some kept =>
      obtain ⟨low, high, rfl, lower, higher⟩ := ih before
      simp only [before, newer] at found
      split at found
      · rename_i replaced
        cases found
        refine ⟨low ++ kept :: high, [], by simp, ?_, by simp⟩
        intro x member
        simp only [List.mem_append, List.mem_cons] at member
        rcases member with member | rfl | member
        · exact le_trans (lower x member) replaced
        · exact replaced
        · exact le_trans (le_of_lt (higher x member)) replaced
      · rename_i kept_
        cases found
        refine ⟨low, high ++ [last], by simp, lower, ?_⟩
        intro x member
        simp only [List.mem_append, List.mem_singleton] at member
        rcases member with member | rfl
        · exact higher x member
        · exact not_le.mp kept_

/-- A list has at most one newest element. -/
theorem isNewest_unique {elements : List α} {left right : α} (isLeft : IsNewest rank elements left)
    (isRight : IsNewest rank elements right) : left = right := by
  obtain ⟨front, back, rfl, low, high⟩ := isLeft
  obtain ⟨front', back', split, low', high'⟩ := isRight
  -- The two splits are compared by where the second element falls in the first split.
  rcases List.append_eq_append_iff.mp split with ⟨mid, rfl, tail⟩ | ⟨mid, rfl, tail⟩
  · cases mid with
    | nil => exact (List.cons.inj tail).1
    | cons first rest =>
      obtain ⟨rfl, rfl⟩ := List.cons.inj tail
      exact absurd (low' left (by simp)) (not_le.mpr (high right (by simp)))
  · cases mid with
    | nil => exact (List.cons.inj tail).1.symm
    | cons first rest =>
      obtain ⟨rfl, rfl⟩ := List.cons.inj tail
      exact absurd (low right (by simp)) (not_le.mpr (high' left (by simp)))

/-- The pass finds exactly the newest element. -/
theorem newest_eq_some {elements : List α} {best : α} :
    newest rank elements = some best ↔ IsNewest rank elements best := by
  -- What the pass finds is a newest element, and there is only one.
  refine ⟨isNewest_of_newest, fun isBest => ?_⟩
  cases found : newest rank elements with
  | none =>
    obtain ⟨front, back, rfl, _⟩ := isBest
    simp [newest_eq_none] at found
  | some other => rw [isNewest_unique (isNewest_of_newest found) isBest]

/-- The newest element is one of the elements. -/
theorem IsNewest.mem {elements : List α} {best : α} (isBest : IsNewest rank elements best) :
    best ∈ elements := by
  obtain ⟨front, back, rfl, _⟩ := isBest
  simp

/-- No element ranks above the newest one. -/
theorem IsNewest.le {elements : List α} {best x : α} (isBest : IsNewest rank elements best)
    (member : x ∈ elements) : rank x ≤ rank best := by
  -- The elements in front are not above it, and those behind are below it.
  obtain ⟨front, back, rfl, low, high⟩ := isBest
  simp only [List.mem_append, List.mem_cons] at member
  rcases member with member | rfl | member
  · exact low x member
  · exact le_rfl
  · exact le_of_lt (high x member)

/-- Removing other elements leaves the newest one newest. -/
theorem IsNewest.filter {elements : List α} {best : α} (isBest : IsNewest rank elements best)
    {keep : α → Bool} (kept : keep best = true) : IsNewest rank (elements.filter keep) best := by
  -- Filtering the two parts splits the filtered list.
  obtain ⟨front, back, rfl, low, high⟩ := isBest
  refine ⟨front.filter keep, back.filter keep, by simp [kept], ?_, ?_⟩
  · exact fun x member => low x (List.mem_filter.mp member).1
  · exact fun x member => high x (List.mem_filter.mp member).1

/-- The last element is the newest one exactly when nothing before it ranks above it. -/
theorem isNewest_append_singleton {front : List α} {last : α} :
    IsNewest rank (front ++ [last]) last ↔ ∀ x ∈ front, rank x ≤ rank last := by
  constructor
  · intro isBest x member
    exact isBest.le (List.mem_append_left _ member)
  · intro low
    exact ⟨front, [], rfl, low, by simp⟩

/-- Among the elements that are kept, the newest one outranks all that are kept around it. -/
theorem isNewest_filter_iff {elements : List α} {keep : α → Bool} {best : α} :
    IsNewest rank (elements.filter keep) best ↔ keep best = true ∧
      ∃ front back, elements = front ++ best :: back ∧
        (∀ x ∈ front, keep x = true → rank x ≤ rank best) ∧
        ∀ x ∈ back, keep x = true → rank x < rank best := by
  constructor
  · rintro ⟨front, back, split, low, high⟩
    -- The split of the kept elements comes from a split of them all.
    obtain ⟨before, rest, rfl, rfl, tail⟩ := List.filter_eq_append_iff.mp split
    obtain ⟨dropped, after, rfl, none_, kept, rfl⟩ := List.filter_eq_cons_iff.mp tail
    refine ⟨kept, before ++ dropped, after, by simp, ?_, ?_⟩
    · intro x member keepX
      rcases List.mem_append.mp member with inFront | inDropped
      · exact low x (List.mem_filter.mpr ⟨inFront, keepX⟩)
      · exact absurd keepX (none_ x inDropped)
    · exact fun x member keepX => high x (List.mem_filter.mpr ⟨member, keepX⟩)
  · rintro ⟨kept, front, back, rfl, low, high⟩
    refine ⟨front.filter keep, back.filter keep, by simp [kept], ?_, ?_⟩
    · intro x member
      obtain ⟨inFront, keepX⟩ := List.mem_filter.mp member
      exact low x inFront keepX
    · intro x member
      obtain ⟨inBack, keepX⟩ := List.mem_filter.mp member
      exact high x inBack keepX

/-- When elements of one rank are equal, the order of the list does not matter. -/
theorem newest_perm {elements permuted : List α} (perm : permuted.Perm elements)
    (once : ∀ x ∈ elements, ∀ y ∈ elements, rank x = rank y → x = y) :
    newest rank permuted = newest rank elements := by
  cases found : newest rank elements with
  | none =>
    have empty := newest_eq_none.mp found
    subst empty
    rw [List.perm_nil.mp perm, newest_nil]
  | some best =>
    have isBest := isNewest_of_newest found
    cases other? : newest rank permuted with
    | none =>
      have empty := newest_eq_none.mp other?
      subst empty
      have member := isBest.mem
      rw [List.nil_perm.mp perm] at member
      exact absurd member List.not_mem_nil
    | some other =>
      -- Each of the two is in both lists, so neither outranks the other.
      have isOther := isNewest_of_newest other?
      have inElements := perm.mem_iff.mp isOther.mem
      have inPermuted := perm.mem_iff.mpr isBest.mem
      rw [once other inElements best isBest.mem
        (le_antisymm (isBest.le inElements) (isOther.le inPermuted))]

/-- Ranking mapped elements is ranking the elements through the map. -/
theorem newest_map {γ : Type v} (rank : α → β) (f : γ → α) (elements : List γ) :
    newest rank (elements.map f) = (newest (fun x => rank (f x)) elements).map f := by
  -- The comparisons are the same on both sides.
  induction elements using List.reverseRecOn with
  | nil => rfl
  | append_singleton front last ih =>
    rw [List.map_append, List.map_singleton, newest_append_singleton, newest_append_singleton, ih]
    cases newest (fun x => rank (f x)) front with
    | none => rfl
    | some best => by_cases replaced : rank (f best) ≤ rank (f last) <;> simp [newer, replaced]

/-- Dropping elements keeps the newest one exactly when every dropped element is outranked. -/
theorem newest_filter_eq_iff {elements : List α} {keep : α → Bool}
    (once : ∀ x ∈ elements, ∀ y ∈ elements, rank x = rank y → x = y) :
    newest rank (elements.filter keep) = newest rank elements ↔
      ∀ x ∈ elements, keep x = false → ∃ y ∈ elements, keep y = true ∧ rank x < rank y := by
  cases found : newest rank elements with
  | none =>
    have empty := newest_eq_none.mp found
    simp [empty]
  | some best =>
    have isBest := isNewest_of_newest found
    constructor
    · intro same x member dropped
      have stays := List.mem_filter.mp (isNewest_of_newest same).mem
      refine ⟨best, stays.1, stays.2, lt_of_le_of_ne (isBest.le member) fun tie => ?_⟩
      -- Only the newest element itself has its rank, and it was not dropped.
      have alike := once x member best stays.1 tie
      rw [alike, stays.2] at dropped
      contradiction
    · intro outranked
      -- Nothing outranks the newest element, so it stays.
      have stays : keep best = true := by
        cases kept : keep best with
        | true => rfl
        | false =>
          obtain ⟨y, member, _, above⟩ := outranked best isBest.mem kept
          exact absurd (isBest.le member) (not_le.mpr above)
      exact newest_eq_some.mpr (isBest.filter stays)

end Newest
