import Std.Data.ExtTreeMap.Lemmas

/-! Writes into a map, one after the other: the last write of a key stays. -/

namespace Writes

universe u v

variable {κ : Type u} {ν : Type v}

/-- The value a key is last written with. -/
@[grind =]
def last [DecidableEq κ] (key : κ) : List (κ × ν) → Option ν
  | [] => none
  | write :: rest => (last key rest).or (if write.1 = key then some write.2 else none)

/-- The keys that are written. -/
def keys (writes : List (κ × ν)) : List κ := writes.map Prod.fst

section

variable [DecidableEq κ]

/-- Later writes come first. -/
theorem last_append (key : κ) (front back : List (κ × ν)) :
    last key (front ++ back) = (last key back).or (last key front) := by
  induction front with
  | nil => simp [last]
  | cons write rest ih => rw [List.cons_append, last, ih, last, Option.or_assoc]

/-- A key has no value exactly if it is not written. -/
theorem last_eq_none {key : κ} {writes : List (κ × ν)} : last key writes = none ↔ key ∉ keys writes := by
  -- A write gives its key a value, whatever is written later.
  induction writes with
  | nil => simp [last, keys]
  | cons write rest ih =>
    by_cases same : write.1 = key
    · simp [last, keys, same]
    · simp [last, ih, keys, same, Ne.symm same]

/-- A key that is written again later does not keep its earlier values. -/
theorem last_append_cons {key : κ} {value : ν} {front back : List (κ × ν)} (final : key ∉ keys back) :
    last key (front ++ (key, value) :: back) = some value := by
  rw [last_append, last, last_eq_none.mpr final]
  simp

/-- Writes of other keys do not change the value of a key. -/
theorem last_append_of_notMem {key : κ} {front back : List (κ × ν)} (other : key ∉ keys back) :
    last key (front ++ back) = last key front := by
  rw [last_append, last_eq_none.mpr other, Option.none_or]

end

section

variable [Ord κ] [Std.TransOrd κ]

/-- Carries writes out. -/
def apply (map : Std.ExtTreeMap κ ν) (writes : List (κ × ν)) : Std.ExtTreeMap κ ν :=
  writes.foldl (fun map write => map.insert write.1 write.2) map

/-- Writes are carried out one list after the other. -/
theorem apply_append (map : Std.ExtTreeMap κ ν) (front back : List (κ × ν)) :
    apply map (front ++ back) = apply (apply map front) back := List.foldl_append

variable [Std.LawfulEqOrd κ] [DecidableEq κ]

/-- Behind some writes a key has the value of its last write, or its old value. -/
theorem getElem?_apply (map : Std.ExtTreeMap κ ν) (writes : List (κ × ν)) (key : κ) :
    (apply map writes)[key]? = (last key writes).or map[key]? := by
  induction writes generalizing map with
  | nil => simp [apply, last]
  | cons write rest ih =>
    have step : apply map (write :: rest) = apply (map.insert write.1 write.2) rest := rfl
    rw [step, ih, Std.ExtTreeMap.getElem?_insert, last, Option.or_assoc]
    -- The write itself is the last one where no later one has the key.
    by_cases same : write.1 = key
    · simp [same]
    · simp [same]

/-- Writes into an empty map are known by the last value of every key. -/
theorem apply_empty_inj {left right : List (κ × ν)} :
    apply (∅ : Std.ExtTreeMap κ ν) left = apply ∅ right ↔ ∀ key, last key left = last key right := by
  -- Two maps are equal if every key has the same value in both.
  refine ⟨fun same key => ?_, fun same => Std.ExtTreeMap.ext_getElem? fun key => ?_⟩
  · have read := congrArg (fun map : Std.ExtTreeMap κ ν => map[key]?) same
    simpa only [getElem?_apply, Std.ExtTreeMap.getElem?_empty, Option.or_none] using read
  · rw [getElem?_apply, getElem?_apply, same key]

/-- Only writing nothing leaves an empty map empty. -/
theorem apply_empty_eq_empty {writes : List (κ × ν)} :
    apply (∅ : Std.ExtTreeMap κ ν) writes = ∅ ↔ writes = [] := by
  refine ⟨fun empty => ?_, fun none => by rw [none]; rfl⟩
  -- The first write has a key, which then has a value.
  cases writes with
  | nil => rfl
  | cons write rest =>
    have same : apply (∅ : Std.ExtTreeMap κ ν) (write :: rest) = apply ∅ [] := empty
    have absent := last_eq_none.mp (apply_empty_inj.mp same write.1)
    simp [keys] at absent

end

end Writes
