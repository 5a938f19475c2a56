import Mathlib.Data.List.Perm.Basic
import Std.Data.ExtTreeMap.Lemmas

/-! Maps of counters, which wrap around, and what rows that are counted one by one add up to. -/

universe u v

namespace Tally

variable {ρ : Type u} {κ : Type v}

/-- The sum of the weights of some rows. -/
def weigh (weight : ρ → UInt64) (rows : List ρ) : UInt64 :=
  rows.foldl (fun sum row => sum + weight row) 0

/-- No rows have no weight. -/
@[simp] theorem weigh_nil (weight : ρ → UInt64) : weigh weight [] = 0 := rfl

/-- The first row adds its weight to that of the others. -/
@[simp] theorem weigh_cons (weight : ρ → UInt64) (row : ρ) (rows : List ρ) :
    weigh weight (row :: rows) = weight row + weigh weight rows := by
  -- The sum starts from what the rows before have made of it.
  have general : ∀ (rows : List ρ) (sum : UInt64),
      rows.foldl (fun sum row => sum + weight row) sum = sum + weigh weight rows := by
    intro rows
    induction rows with
    | nil => intro sum; simp
    | cons row rest ih =>
      intro sum
      rw [weigh, List.foldl_cons, List.foldl_cons, ih, ih, UInt64.zero_add, UInt64.add_assoc]
  rw [weigh, List.foldl_cons, UInt64.zero_add, general]

/-- The order of the rows does not matter for their weight. -/
theorem weigh_perm (weight : ρ → UInt64) {left right : List ρ} (same : left.Perm right) :
    weigh weight left = weigh weight right := by
  -- Addition modulo 2^64 commutes, so two neighbours can be exchanged.
  induction same with
  | nil => rfl
  | cons row _ ih => rw [weigh_cons, weigh_cons, ih]
  | swap first second rest =>
    simp only [weigh_cons]
    rw [← UInt64.add_assoc, UInt64.add_comm (weight second), UInt64.add_assoc]
  | trans _ _ first second => exact first.trans second

/-- Rows that weigh one each weigh as much as there are. -/
theorem weigh_one (rows : List ρ) : weigh (fun _ => 1) rows = UInt64.ofNat rows.length := by
  induction rows with
  | nil => rfl
  | cons row rest ih =>
    rw [weigh_cons, ih, List.length_cons, UInt64.ofNat_add, UInt64.add_comm]
    rfl

/-- Rows without weight can be left out. -/
theorem weigh_filter (weight : ρ → UInt64) (condition : ρ → Bool)
    (light : ∀ row, condition row = false → weight row = 0) (rows : List ρ) :
    weigh weight (rows.filter condition) = weigh weight rows := by
  -- A row that is left out would have added nothing.
  induction rows with
  | nil => rfl
  | cons row rest ih =>
    cases met : condition row with
    | true => rw [List.filter_cons_of_pos met, weigh_cons, weigh_cons, ih]
    | false =>
      rw [List.filter_cons_of_neg (by simp [met]), weigh_cons, ih, light row met, UInt64.zero_add]

variable [Ord κ] [Std.TransOrd κ] [Std.LawfulEqOrd κ]

/-- Counters by key. -/
abbrev Counters (κ : Type v) [Ord κ] := Std.ExtTreeMap κ UInt64

/-- Add to the counter of a key, which is made when there is none. -/
def add (counters : Counters κ) (key : κ) (increment : UInt64) : Counters κ :=
  match counters[key]? with
  | none => counters.insert key increment
  | some count => counters.insert key (count + increment)

/-- The sum of all counters. -/
def total (counters : Counters κ) : UInt64 :=
  weigh Prod.snd counters.toList

/-- Count rows under their keys, each with its weight. -/
def tally (keyOf : ρ → κ) (weight : ρ → UInt64) (rows : List ρ) (counters : Counters κ) : Counters κ :=
  rows.foldl (fun counters row => add counters (keyOf row) (weight row)) counters

variable {counters : Counters κ}

/-- The entries of a map have distinct keys, and so are distinct. -/
theorem nodup_toList (counters : Counters κ) : counters.toList.Nodup := by
  refine (Std.ExtTreeMap.distinct_keys_toList (t := counters)).imp ?_
  rintro left right apart rfl
  exact apart Std.ReflCmp.compare_self

/-- The entries of a map with one more key, or another value at a key. -/
theorem toList_insert_perm [DecidableEq κ] (counters : Counters κ) (key : κ) (count : UInt64) :
    (counters.insert key count).toList.Perm
      ((key, count) :: counters.toList.filter fun entry => decide (entry.1 ≠ key)) := by
  -- Both lists are without repetitions and have the same members.
  have fresh : (key, count) ∉ counters.toList.filter fun entry => decide (entry.1 ≠ key) := by
    simp
  rw [List.perm_ext_iff_of_nodup (nodup_toList _)
    (List.nodup_cons.mpr ⟨fresh, (nodup_toList counters).filter _⟩)]
  rintro ⟨other, value⟩
  rw [Std.ExtTreeMap.mem_toList_iff_getElem?_eq_some, Std.ExtTreeMap.getElem?_insert, List.mem_cons,
    List.mem_filter, Std.ExtTreeMap.mem_toList_iff_getElem?_eq_some]
  by_cases same : other = key
  · subst same
    simp [eq_comm]
  · have apart : ¬ compare key other = .eq := fun equal =>
      same (Std.LawfulEqCmp.eq_of_compare equal).symm
    simp [same, apart]

/-- Adding to a counter adds to the sum of all counters. -/
theorem total_add (counters : Counters κ) (key : κ) (increment : UInt64) :
    total (add counters key increment) = total counters + increment := by
  classical
  unfold add
  cases found : counters[key]? with
  | none =>
    -- The key is new, so all entries stay.
    have others : counters.toList.filter (fun entry => decide (entry.1 ≠ key)) = counters.toList := by
      refine List.filter_eq_self.mpr fun entry member => ?_
      have stored := Std.ExtTreeMap.mem_toList_iff_getElem?_eq_some.mp member
      refine decide_eq_true fun same => ?_
      rw [same, found] at stored
      contradiction
    have perm := toList_insert_perm counters key increment
    rw [others] at perm
    simp only [total]
    rw [weigh_perm _ perm, weigh_cons, UInt64.add_comm]
  | some count =>
    -- One entry changes, before and after it the others are the same.
    have before := toList_insert_perm counters key count
    have unchanged : counters.insert key count = counters := by
      refine Std.ExtTreeMap.ext_getElem? fun other => ?_
      rw [Std.ExtTreeMap.getElem?_insert]
      split
      · rename_i same
        rw [← Std.LawfulEqCmp.eq_of_compare same, found]
      · rfl
    rw [unchanged] at before
    simp only [total]
    rw [weigh_perm _ (toList_insert_perm counters key (count + increment)), weigh_perm _ before,
      weigh_cons, weigh_cons]
    rw [UInt64.add_assoc, UInt64.add_comm increment, ← UInt64.add_assoc]

/-- Counted rows add their weights to the sum of all counters. -/
theorem total_tally (keyOf : ρ → κ) (weight : ρ → UInt64) (rows : List ρ) (counters : Counters κ) :
    total (tally keyOf weight rows counters) = total counters + weigh weight rows := by
  induction rows generalizing counters with
  | nil => simp [tally]
  | cons row rest ih =>
    rw [tally, List.foldl_cons, ← tally, ih, total_add, weigh_cons, UInt64.add_assoc]

omit [Std.LawfulEqOrd κ] in
/-- Where a visitor counts the rows that meet a condition, the visited rows are tallied. -/
theorem foldl_eq_tally {σ : Type*} (visit : σ → ρ → σ) (field : σ → Counters κ) (condition : ρ → Bool)
    (keyOf : ρ → κ) (weight : ρ → UInt64)
    (one : ∀ state row, field (visit state row) =
      if condition row then add (field state) (keyOf row) (weight row) else field state)
    (rows : List ρ) (state : σ) :
    field (rows.foldl visit state) = tally keyOf weight (rows.filter condition) (field state) := by
  -- By the rows, from whatever state the visitor has reached.
  induction rows generalizing state with
  | nil => rfl
  | cons row rest ih =>
    rw [List.foldl_cons, ih, one]
    by_cases met : condition row = true
    · rw [if_pos met, List.filter_cons_of_pos met, tally, tally, List.foldl_cons]
    · rw [if_neg met, List.filter_cons_of_neg met]

/-- Nothing has been counted in an empty map. -/
@[simp] theorem total_empty : total (∅ : Counters κ) = 0 := by
  -- An entry would be the value of a key, and there is none.
  have nothing : (∅ : Counters κ).toList = [] := by
    refine List.eq_nil_iff_forall_not_mem.mpr ?_
    rintro ⟨key, count⟩ member
    simpa using Std.ExtTreeMap.mem_toList_iff_getElem?_eq_some.mp member
  rw [total, nothing, weigh_nil]

end Tally
