import Mathlib.Data.List.Basic

/-! Searches through a list by a test that may fail, which stop at the first element it does not refuse. -/

namespace Searches

universe u v

variable {α : Type u} {ε : Type v} {test : α → Except ε Bool}

/-- A list is refused to its end, or the search stops at one of its elements. -/
theorem refused_or_stops (list : List α) :
    (∀ element ∈ list, test element = .ok false) ∨
      ∃ front element back, list = front ++ element :: back ∧ (∀ other ∈ front, test other = .ok false) ∧
        test element ≠ .ok false := by
  -- The first element is where the search stops, or else the rest of the list says where.
  induction list with
  | nil => exact .inl (by simp)
  | cons first rest ih =>
    by_cases refused : test first = .ok false
    · rcases ih with all | ⟨front, element, back, rfl, before, stops⟩
      · exact .inl (by simpa [refused] using all)
      · exact .inr ⟨first :: front, element, back, rfl, by simpa [refused] using before, stops⟩
    · exact .inr ⟨[], first, rest, rfl, by simp, refused⟩

/-- Elements that are refused are passed. -/
theorem anyM_append {front : List α} (refused : ∀ element ∈ front, test element = .ok false)
    (back : List α) : (front ++ back).anyM test = back.anyM test := by
  -- By the elements in front, each of which is refused.
  induction front with
  | nil => rfl
  | cons first rest ih =>
    have passed := refused first List.mem_cons_self
    rw [List.cons_append, List.anyM, passed]
    exact ih fun element member => refused element (List.mem_cons_of_mem _ member)

/-- A search that is refused to the end finds nothing. -/
theorem anyM_refused {list : List α} (refused : ∀ element ∈ list, test element = .ok false) :
    list.anyM test = .ok false := by
  have passed := anyM_append refused []
  rwa [List.append_nil] at passed

/-- A search that stops has the outcome of the test there. -/
theorem anyM_stops {front back : List α} {element : α} (refused : ∀ other ∈ front, test other = .ok false)
    (stops : test element ≠ .ok false) : (front ++ element :: back).anyM test = test element := by
  -- What is not refused is found, or fails.
  rw [anyM_append refused, List.anyM]
  rcases outcome : test element with - | - | -
  · rfl
  · exact absurd outcome stops
  · rfl

/-- An element that is found is not missed, where no element before it fails. -/
theorem anyM_found {front back : List α} {element : α}
    (passes : ∀ other ∈ front, ∃ result, test other = .ok result)
    (found : test element = .ok true) : (front ++ element :: back).anyM test = .ok true := by
  -- The search stops there at the latest.
  rcases @refused_or_stops α ε test front with all | ⟨before, other, behind, rfl, refused, stops⟩
  · exact (anyM_stops all (by simp [found])).trans found
  · obtain ⟨result, outcome⟩ := passes other (by simp)
    cases result with
    | false => exact absurd outcome stops
    | true =>
      rw [List.append_assoc, List.cons_append]
      exact (anyM_stops refused stops).trans outcome

/-- A search by a test that never fails finds an element exactly where there is one. -/
theorem anyM_iff {list : List α} {found : α → Prop}
    (decides : ∀ element ∈ list, ∃ result, test element = .ok result ∧ (result = true ↔ found element)) :
    ∃ result, list.anyM test = .ok result ∧ (result = true ↔ ∃ element ∈ list, found element) := by
  -- By where the search stops, if it does.
  rcases refused_or_stops list with all | ⟨front, element, back, rfl, before, stops⟩
  · -- Where the test refuses everything, there is nothing to find.
    refine ⟨false, anyM_refused all, ?_⟩
    simp only [reduceCtorEq, false_iff, not_exists, not_and]
    intro element member present
    obtain ⟨result, outcome, agree⟩ := decides element member
    rw [agree.mpr present, all element member] at outcome
    cases outcome
  · have member : element ∈ front ++ element :: back := by simp
    obtain ⟨result, outcome, agree⟩ := decides element member
    cases result with
    | false => exact absurd outcome stops
    | true =>
      refine ⟨true, (anyM_stops before stops).trans outcome, ?_⟩
      simp only [true_iff]
      exact ⟨element, member, agree.mp rfl⟩

end Searches
