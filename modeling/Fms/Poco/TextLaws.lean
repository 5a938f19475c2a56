import Mathlib.Data.List.TakeWhile
import Fms.Poco.Text

/-! What the text functions say of each other: parts around a mark, and texts that occur in texts. -/

namespace Fms

/-- A text is what precedes its last mark, the mark, and what follows it. -/
theorem eq_beforeLast_afterLast {mark : Char} {text : List Char} (marked : mark ∈ text) :
    text = beforeLast mark text ++ mark :: afterLast mark text := by
  -- Read backwards, the text runs up to the mark and on from it.
  have split := List.takeWhile_append_dropWhile (p := fun c => decide (c ≠ mark)) (l := text.reverse)
  cases rest : text.reverse.dropWhile fun c => decide (c ≠ mark) with
  | nil =>
    have all := List.dropWhile_eq_nil_iff.mp rest mark (List.mem_reverse.mpr marked)
    simp at all
  | cons first others =>
    have stops := List.head?_dropWhile_not (fun c => decide (c ≠ mark)) text.reverse
    rw [rest] at stops split
    obtain rfl : first = mark := by simpa using stops
    have whole := congrArg List.reverse split
    rw [List.reverse_reverse, List.reverse_append, List.reverse_cons, List.append_assoc] at whole
    rw [beforeLast, afterLast, rest]
    exact whole.symm

/-- The base name of a file is the front of its name. -/
theorem fileName_startsWith_baseName (path : String) : (getBaseName path).toList <+: (getFileName path).toList := by
  -- Without a dot the base name is the whole name.
  simp only [getBaseName]
  split
  · rename_i marked
    rw [String.toList_ofList]
    exact ⟨_, (eq_beforeLast_afterLast marked).symm⟩
  · rw [String.toList_ofList]

/-- A file name with an extension is its base name, a dot and the extension. -/
theorem fileName_eq (path : String) (extended : getExtension path ≠ "") :
    (getFileName path).toList = (getBaseName path).toList ++ '.' :: (getExtension path).toList := by
  -- A name without a dot has no extension.
  by_cases marked : '.' ∈ (getFileName path).toList
  · simp only [getBaseName, getExtension, if_pos marked, String.toList_ofList]
    exact eq_beforeLast_afterLast marked
  · simp [getExtension, marked] at extended

/-- What is left of a text without its end is a front of it. -/
theorem startsWith_dropLast (n : Nat) (text : String) : (dropLast n text).toList <+: text.toList := by
  -- A text that is too short is left as it is.
  unfold dropLast
  split
  · exact List.prefix_refl _
  · rw [String.toList_ofList]
    exact List.take_prefix _ _

/-- A part without a mark does not reach across the mark. -/
theorem infix_append_cons_iff {mark : Char} {part front back : List Char} (unmarked : mark ∉ part)
    (nonempty : part ≠ []) :
    part <:+: front ++ mark :: back ↔ part <:+: front ∨ part <:+: back := by
  -- The induction moves the mark to the front, letter by letter.
  induction front with
  | nil =>
    rw [List.nil_append, List.infix_cons_iff, List.infix_nil]
    -- A front of the rest that starts with the mark would hold the mark.
    have noPrefix : ¬ part <+: mark :: back := by
      intro starts
      cases part with
      | nil => contradiction
      | cons first others =>
        rw [List.cons_prefix_cons] at starts
        exact unmarked (starts.1 ▸ List.mem_cons_self)
    simp only [noPrefix, nonempty, false_or]
  | cons c front ih =>
    rw [List.cons_append, List.infix_cons_iff, ih, List.infix_cons_iff, or_assoc]
    refine or_congr_left ⟨fun starts => ?_, fun starts => ?_⟩
    · -- The part ends before the mark, or it holds the mark.
      have whole : c :: front <+: c :: (front ++ mark :: back) := ⟨mark :: back, by simp⟩
      rcases List.prefix_or_prefix_of_prefix starts whole with shorter | longer
      · exact shorter
      · obtain ⟨rest, rfl⟩ := longer
        cases rest with
        | nil => simp
        | cons next others =>
          obtain ⟨after, same⟩ := starts
          simp only [List.cons_append, List.append_assoc, List.cons.injEq,
            List.append_cancel_left_eq, true_and] at same
          exact absurd (by simp [same.1]) unmarked
    · exact starts.trans ⟨mark :: back, by simp⟩

/-- What occurs in a part of a text occurs in the text. -/
theorem occursIn_of_infix {needle part text : String} (within : part.toList <:+: text.toList)
    (occurs : occursIn needle part = true) : occursIn needle text = true := by
  simp only [occursIn, decide_eq_true_eq] at occurs ⊢
  exact occurs.trans within

/-- A needle without a mark occurs on one side of the mark. -/
theorem occursIn_append_cons_iff {mark : Char} {needle : String} (unmarked : mark ∉ needle.toList)
    (nonempty : needle ≠ "") (front back : String) {text : String}
    (split : text.toList = front.toList ++ mark :: back.toList) :
    occursIn needle text = true ↔ occursIn needle front = true ∨ occursIn needle back = true := by
  -- Occurring is being an infix of the letters.
  have letters : needle.toList ≠ [] := fun empty => nonempty (String.toList_eq_nil_iff.mp empty)
  simp only [occursIn, decide_eq_true_eq, split, infix_append_cons_iff unmarked letters]

/-- A text that is split in two is its parts around one mark. -/
theorem eq_of_splitOn_pair {mark : Char} {text front back : List Char}
    (parts : text.splitOn mark = [front, back]) :
    text = front ++ mark :: back ∧ mark ∉ back := by
  -- The text has a mark, and what follows its first one has none.
  by_cases marked : mark ∈ text
  · obtain ⟨before, behind, rfl, first⟩ := List.eq_append_cons_of_mem marked
    rw [List.splitOn_append_cons_self_of_not_mem first] at parts
    injection parts with front_ rest
    by_cases again : mark ∈ behind
    · obtain ⟨middle, last, rfl, second⟩ := List.eq_append_cons_of_mem again
      rw [List.splitOn_append_cons_self_of_not_mem second] at rest
      injection rest with _ none
      exact absurd none (List.splitOn_ne_nil _ _)
    · rw [List.splitOn_eq_singleton again] at rest
      injection rest with back_
      rw [← front_, ← back_]
      exact ⟨rfl, again⟩
  · rw [List.splitOn_eq_singleton marked] at parts
    cases parts

/-- What follows the only mark behind a text is what follows its last one. -/
theorem afterLast_append_cons {mark : Char} (front : List Char) {back : List Char} (unmarked : mark ∉ back) :
    afterLast mark (front ++ mark :: back) = back := by
  -- From the end, the text runs freely up to the mark.
  have free : ∀ c ∈ back.reverse, decide (c ≠ mark) = true := by
    intro c member
    have different : c ≠ mark := by
      rintro rfl
      exact unmarked (List.mem_reverse.mp member)
    simpa using different
  have stops : List.takeWhile (fun c => decide (c ≠ mark)) (mark :: front.reverse) = [] := by simp
  rw [afterLast, List.reverse_append, List.reverse_cons, List.append_assoc, List.singleton_append,
    List.takeWhile_append_of_pos free, stops, List.append_nil, List.reverse_reverse]

/-- A text without the white space around it. -/
def trimText (text : String) : String := String.ofList (trim text.toList)

/-- Two tokens are trimmed one by one, unless the last one is blank. -/
theorem trimmedTokens_pair {separator : Char} {text front back : String}
    (tokens : stringTokens separator text = [front, back]) (filled : trim back.toList ≠ []) :
    trimmedTokens separator text = [trimText front, trimText back] := by
  -- The last part is what follows the only separator.
  have parts : text.toList.splitOn separator = [front.toList, back.toList] := by
    unfold stringTokens at tokens
    split at tokens
    · cases tokens
    · have lists := congrArg (List.map String.toList) tokens
      simpa [Function.comp_def] using lists
  obtain ⟨whole, unmarked⟩ := eq_of_splitOn_pair parts
  have last : afterLast separator text.toList = back.toList := by
    rw [whole]
    exact afterLast_append_cons _ unmarked
  simp [trimmedTokens, parts, last, filled, trimText]

/-- A text that is trimmed to nothing has white space only. -/
theorem dropWhile_of_trim_nil {text : List Char} (blank : trim text = []) : text.dropWhile isTrimmed = [] := by
  -- What the front is cut down to begins with another character, and cannot be white space to its end.
  unfold trim at blank
  have all := List.dropWhile_eq_nil_iff.mp (List.reverse_eq_nil_iff.mp blank)
  cases rest : text.dropWhile isTrimmed with
  | nil => rfl
  | cons first others =>
    have stops := List.head?_dropWhile_not isTrimmed text
    rw [rest] at stops all
    have trimmed := all first (by simp)
    simp [trimmed] at stops

end Fms
