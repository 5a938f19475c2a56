import Mathlib.Data.List.Nodup
import Mathlib.Data.List.Perm.Basic

/-! Finite relations whose rows are told apart by a primary key. -/

universe u v

/-- The rows of a relation in the order the database lists them, no two sharing a key. -/
structure KeyedTable (ρ : Type u) (κ : Type v) (key : ρ → κ) where
  /-- The stored rows. -/
  rows : List ρ
  /-- The primary key constraint. -/
  distinct : (rows.map key).Nodup

namespace KeyedTable

variable {ρ : Type u} {κ : Type v} {key : ρ → κ}

/-- The relation without rows. -/
def empty : KeyedTable ρ κ key := ⟨[], List.nodup_nil⟩

@[simp] theorem rows_empty : (empty : KeyedTable ρ κ key).rows = [] := rfl

/-- The relation with one row. -/
def single (row : ρ) : KeyedTable ρ κ key := ⟨[row], List.nodup_singleton (key row)⟩

@[simp] theorem rows_single (row : ρ) : (single row : KeyedTable ρ κ key).rows = [row] := rfl

/-- Two relations with the same rows in the same order are the same relation. -/
@[ext] theorem ext {left right : KeyedTable ρ κ key} (same : left.rows = right.rows) :
    left = right := by
  -- The key constraint is a proof about the rows.
  cases left
  cases right
  cases same
  rfl

/-- The rows a condition selects, in listing order. -/
def select (t : KeyedTable ρ κ key) (condition : ρ → Bool) : List ρ :=
  t.rows.filter condition

/-- The relation without the rows a condition selects. -/
def delete (t : KeyedTable ρ κ key) (condition : ρ → Bool) : KeyedTable ρ κ key where
  rows := t.rows.filter fun row => !condition row
  distinct := (List.filter_sublist.map key).nodup t.distinct

/-- Deleting keeps exactly the rows the condition does not select. -/
@[simp] theorem mem_delete {t : KeyedTable ρ κ key} {condition : ρ → Bool} {row : ρ} :
    row ∈ (t.delete condition).rows ↔ row ∈ t.rows ∧ condition row = false := by
  simp [delete]

/-- Two stored rows with one key are one row. -/
theorem eq_of_key {t : KeyedTable ρ κ key} {left right : ρ} (inLeft : left ∈ t.rows)
    (inRight : right ∈ t.rows) (same : key left = key right) : left = right :=
  List.inj_on_of_nodup_map t.distinct inLeft inRight same

/-- The rows of a relation listed in another order, if it is one of theirs. -/
def relist [DecidableEq ρ] (t : KeyedTable ρ κ key) (order : List ρ) : KeyedTable ρ κ key :=
  if same : order.Perm t.rows then ⟨order, (same.map key).nodup_iff.mpr t.distinct⟩ else t

/-- Another order has the same rows. -/
theorem perm_relist [DecidableEq ρ] (t : KeyedTable ρ κ key) (order : List ρ) :
    (t.relist order).rows.Perm t.rows := by
  unfold relist
  split
  · rename_i same
    exact same
  · exact List.Perm.refl t.rows

/-- Any row can be the first one that is listed. -/
theorem exists_relist_cons [DecidableEq ρ] {t : KeyedTable ρ κ key} {row : ρ} (stored : row ∈ t.rows) :
    ∃ order rest, (t.relist order).rows = row :: rest := by
  -- The other rows are listed behind it.
  have same : (row :: t.rows.erase row).Perm t.rows := (List.perm_cons_erase stored).symm
  exact ⟨row :: t.rows.erase row, t.rows.erase row, by rw [relist, dif_pos same]⟩

variable [DecidableEq κ]

/-- When the values of a column are distinct, each value it takes belongs to exactly one row. -/
theorem filter_eq_singleton {column : ρ → κ} {rows : List ρ} (once : (rows.map column).Nodup)
    {value : κ} (taken : value ∈ rows.map column) :
    ∃ row, rows.filter (fun row => decide (column row = value)) = [row] := by
  induction rows with
  | nil => simp at taken
  | cons first rest ih =>
    obtain ⟨fresh, once⟩ := List.nodup_cons.mp once
    by_cases same : column first = value
    · -- The first row has the value, so no later one does.
      refine ⟨first, ?_⟩
      have others : rest.filter (fun row => decide (column row = value)) = [] := by
        refine List.filter_eq_nil_iff.mpr fun row member => ?_
        intro alike
        have equal : column row = column first := by simpa [same] using alike
        exact fresh (equal ▸ List.mem_map_of_mem member)
      rw [List.filter_cons_of_pos (by simpa using same), others]
    · -- The value is taken further behind.
      have later : value ∈ rest.map column := by
        rcases List.mem_cons.mp taken with here | later
        · exact absurd here.symm same
        · exact later
      obtain ⟨row, found⟩ := ih once later
      exact ⟨row, by rw [List.filter_cons_of_neg (by simpa using same), found]⟩

/-- The row stored under a key. -/
def lookup (t : KeyedTable ρ κ key) (k : κ) : Option ρ :=
  t.rows.find? fun row => key row = k

/-- A lookup finds exactly the stored row with that key. -/
theorem lookup_eq_some {t : KeyedTable ρ κ key} {k : κ} {row : ρ} :
    t.lookup k = some row ↔ row ∈ t.rows ∧ key row = k := by
  constructor
  · intro found
    exact ⟨List.mem_of_find?_eq_some found, by simpa using List.find?_some found⟩
  · rintro ⟨stored, rfl⟩
    -- Some row is found, and the key constraint makes it the given one.
    cases found : t.lookup (key row) with
    | none =>
      have absent := List.find?_eq_none.mp found row stored
      simp at absent
    | some other =>
      have sameKey : key other = key row := by simpa using List.find?_some found
      rw [eq_of_key (List.mem_of_find?_eq_some found) stored sameKey]

/-- A lookup fails exactly when no stored row has the key. -/
theorem lookup_eq_none {t : KeyedTable ρ κ key} {k : κ} :
    t.lookup k = none ↔ ∀ row ∈ t.rows, key row ≠ k := by
  simp [lookup]

/-- A deletion that selects no row with a key leaves what is found under the key. -/
theorem lookup_delete {t : KeyedTable ρ κ key} {condition : ρ → Bool} {k : κ}
    (kept : ∀ row ∈ t.rows, key row = k → condition row = false) :
    (t.delete condition).lookup k = t.lookup k := by
  cases found : t.lookup k with
  | none =>
    -- There is no such row to begin with.
    rw [lookup_eq_none] at found ⊢
    intro row member
    exact found row (mem_delete.mp member).1
  | some row =>
    obtain ⟨stored, named⟩ := lookup_eq_some.mp found
    exact lookup_eq_some.mpr ⟨mem_delete.mpr ⟨stored, kept row stored named⟩, named⟩

/-- The rows with a key are the row a lookup finds, if it finds one. -/
theorem filter_key (t : KeyedTable ρ κ key) (k : κ) :
    t.rows.filter (fun row => decide (key row = k)) = (t.lookup k).toList := by
  -- The key is in no row or in a single one.
  cases found : t.lookup k with
  | none =>
    have absent := lookup_eq_none.mp found
    simpa using absent
  | some row =>
    obtain ⟨stored, named⟩ := lookup_eq_some.mp found
    have taken : k ∈ t.rows.map key := List.mem_map.mpr ⟨row, stored, named⟩
    obtain ⟨only, one⟩ := filter_eq_singleton t.distinct taken
    have member : row ∈ t.rows.filter fun row => decide (key row = k) := by
      simpa using ⟨stored, named⟩
    rw [one] at member ⊢
    rw [List.mem_singleton.mp member, Option.toList_some]

/-- After a row is appended it is found under its key, and the other keys are found as before. -/
theorem lookup_append {t grown : KeyedTable ρ κ key} {row : ρ} (rows : grown.rows = t.rows ++ [row])
    (k : κ) : grown.lookup k = if k = key row then some row else t.lookup k := by
  split
  · -- The new row is found by its own key.
    rename_i same
    exact lookup_eq_some.mpr ⟨by simp [rows], same.symm⟩
  · -- The search passes the old rows as before, and then the new one.
    rename_i other
    rw [lookup, rows, List.find?_append, lookup]
    have passed : [row].find? (fun row => decide (key row = k)) = none := by
      simpa using Ne.symm other
    rw [passed, Option.or_none]

/-- What is found under a key does not depend on the order. -/
theorem lookup_relist [DecidableEq ρ] (t : KeyedTable ρ κ key) (order : List ρ) (k : κ) :
    (t.relist order).lookup k = t.lookup k := by
  have same := perm_relist t order
  cases found : t.lookup k with
  | none =>
    rw [lookup_eq_none] at found ⊢
    exact fun row listed => found row (same.subset listed)
  | some row =>
    obtain ⟨stored, named⟩ := lookup_eq_some.mp found
    exact lookup_eq_some.mpr ⟨same.symm.subset stored, named⟩

/-- Adding a row at the end, refused when its key is taken. -/
def insert (t : KeyedTable ρ κ key) (row : ρ) : Option (KeyedTable ρ κ key) :=
  if fresh : key row ∉ t.rows.map key then
    some ⟨t.rows ++ [row], by simpa [List.nodup_append] using ⟨t.distinct, by simpa using fresh⟩⟩
  else none

/-- A row with a fresh key is appended. -/
theorem insert_of_fresh {t : KeyedTable ρ κ key} {row : ρ}
    (fresh : ∀ stored ∈ t.rows, key stored ≠ key row) :
    ∃ grown, t.insert row = some grown ∧ grown.rows = t.rows ++ [row] := by
  have free : key row ∉ t.rows.map key := by simpa using fresh
  exact ⟨_, dif_pos free, rfl⟩

/-- A successful insertion appended the row, whose key was free. -/
theorem insert_eq_some {t grown : KeyedTable ρ κ key} {row : ρ} (inserted : t.insert row = some grown) :
    grown.rows = t.rows ++ [row] ∧ ∀ stored ∈ t.rows, key stored ≠ key row := by
  -- The insertion checks the key before it appends.
  unfold insert at inserted
  split at inserted
  · rename_i fresh
    cases inserted
    exact ⟨rfl, by simpa using fresh⟩
  · contradiction

/-- Writing a row over the stored row with the same key. -/
def replace (t : KeyedTable ρ κ key) (row : ρ) : KeyedTable ρ κ key where
  rows := t.rows.map fun stored => if key stored = key row then row else stored
  distinct := by
    have keys : (t.rows.map fun stored => if key stored = key row then row else stored).map key =
        t.rows.map key := by
      rw [List.map_map]
      refine List.map_congr_left fun stored _ => ?_
      by_cases same : key stored = key row <;> simp [same]
    rw [keys]
    exact t.distinct

/-- After replacing, a row is the new one or an old one under another key. -/
theorem mem_replace {t : KeyedTable ρ κ key} {row other : ρ} :
    other ∈ (t.replace row).rows ↔
      (other ∈ t.rows ∧ key other ≠ key row) ∨ (other = row ∧ key row ∈ t.rows.map key) := by
  simp only [replace, List.mem_map]
  constructor
  · -- Each position holds the new row or what it held before.
    rintro ⟨stored, present, rfl⟩
    by_cases same : key stored = key row
    · exact Or.inr ⟨by simp [same], stored, present, same⟩
    · exact Or.inl (by simpa [same] using present)
  · rintro (⟨present, different⟩ | ⟨rfl, stored, present, same⟩)
    · exact ⟨other, present, by simp [different]⟩
    · exact ⟨stored, present, by simp [same]⟩

/-- A replaced row is found under its key, and the other keys are found as before. -/
theorem lookup_replace {t : KeyedTable ρ κ key} {row : ρ} (stored : key row ∈ t.rows.map key)
    (k : κ) : (t.replace row).lookup k = if k = key row then some row else t.lookup k := by
  split
  · rename_i same
    exact lookup_eq_some.mpr ⟨mem_replace.mpr (Or.inr ⟨rfl, stored⟩), same.symm⟩
  · rename_i different
    -- The other rows stand where they stood, under their own keys.
    cases found : t.lookup k with
    | none =>
      refine lookup_eq_none.mpr fun other present => ?_
      rcases mem_replace.mp present with ⟨old, _⟩ | ⟨rfl, _⟩
      · exact lookup_eq_none.mp found other old
      · exact Ne.symm different
    | some old =>
      obtain ⟨present, named⟩ := lookup_eq_some.mp found
      exact lookup_eq_some.mpr ⟨mem_replace.mpr (Or.inl ⟨present, named ▸ different⟩), named⟩

/-- Writing a row over the row stored under a key, refused when that breaks the key constraint. -/
def update (t : KeyedTable ρ κ key) (k : κ) (row : ρ) : Option (KeyedTable ρ κ key) :=
  let rows := t.rows.map fun stored => if key stored = k then row else stored
  if distinct : (rows.map key).Nodup then some ⟨rows, distinct⟩ else none

/-- Updating a row under its own key is replacing it. -/
@[simp] theorem update_key (t : KeyedTable ρ κ key) (row : ρ) :
    t.update (key row) row = some (t.replace row) :=
  dif_pos (t.replace row).distinct

/-- Rewriting chosen stored rows one after the other rewrites each of them once. -/
theorem rows_foldl_replace (rewrite : ρ → ρ) (keeps : ∀ row, key (rewrite row) = key row)
    (chosen : List ρ) (t : KeyedTable ρ κ key) (stored : ∀ row ∈ chosen, row ∈ t.rows)
    (once : (chosen.map key).Nodup) :
    (chosen.foldl (fun t row => t.replace (rewrite row)) t).rows =
      t.rows.map fun row => if key row ∈ chosen.map key then rewrite row else row := by
  -- The induction consumes the chosen rows; the later ones are untouched by the first write.
  induction chosen generalizing t with
  | nil => simp
  | cons first rest ih =>
    obtain ⟨fresh, once⟩ := List.nodup_cons.mp once
    have later : ∀ row ∈ rest, row ∈ (t.replace (rewrite first)).rows := by
      intro row member
      refine mem_replace.mpr (Or.inl ⟨stored row (by simp [member]), fun same => fresh ?_⟩)
      exact keeps first ▸ same ▸ List.mem_map_of_mem member
    rw [List.foldl_cons, ih _ later once]
    simp only [replace, List.map_map]
    refine List.map_congr_left fun row present => ?_
    by_cases same : key row = key first
    · have alike : row = first := eq_of_key present (stored first (by simp)) same
      subst alike
      simp only [Function.comp, keeps, if_true, if_neg fresh, List.map_cons, List.mem_cons, true_or]
    · simp [keeps, same]

end KeyedTable
