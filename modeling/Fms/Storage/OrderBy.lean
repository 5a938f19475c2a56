import Fms.Storage.Creation

/-! `PrepareOrderBy`: the order of a listing, as a request asks for it. -/

namespace Fms

namespace Orm

open Std

/-- The loop of `PrepareOrderBy` over the items of the list, or nothing where it returns `false`. -/
def orderItems (fieldNames : ExtTreeMap String Nat) (itemList : String) : List String → Option String
  | [] => some itemList
  | i :: rest =>
    match stringTokens ':' i with
    | [field, order] =>
      if order ≠ "a" ∧ order ≠ "d" then none
      else
        let itemList := if itemList ≠ "" then itemList ++ " , " else itemList
        if toLower field ∈ fieldNames then
          orderItems fieldNames (itemList ++ field ++ (if order = "a" then " ASC" else " DESC")) rest
        else none
    | _ => none

/-- `PrepareOrderBy`: what it returns, and what it leaves in `OrderByString`. -/
def DB.prepareOrderBy (db : DB) (orderByList orderByString : String) : Bool × String :=
  match orderItems db.fieldNames "" (stringTokens ',' orderByList) with
  | none => (false, orderByString)
  | some itemList => (true, if itemList ≠ "" then " ORDER BY " ++ itemList else orderByString)

/-- An item has two parts: a field, and an order that is `a` or `d`. -/
def ValidItem (fields : List NamedField) (item : String) : Prop :=
  ∃ field order, stringTokens ':' item = [field, order] ∧ IsField fields field ∧ (order = "a" ∨ order = "d")

/-- A field and whether its order is ascending. -/
abbrev OrderEntry := String × Bool

/-- The parts of an item with a field and an order. -/
def OrderEntry.parts (entry : OrderEntry) : List String := [entry.1, if entry.2 then "a" else "d"]

/-- A field with its order, as a statement spells it. -/
def OrderEntry.text (entry : OrderEntry) : String := entry.1 ++ if entry.2 then " ASC" else " DESC"

/-- Entries are what some items ask for. -/
def AskedFor (fields : List NamedField) (items : List String) (entries : List OrderEntry) : Prop :=
  items.map (stringTokens ':') = entries.map OrderEntry.parts ∧ ∀ entry ∈ entries, IsField fields entry.1

/-- A valid item is an entry. -/
theorem validItem_iff {fields : List NamedField} {item : String} :
    ValidItem fields item ↔
      ∃ entry : OrderEntry, stringTokens ':' item = entry.parts ∧ IsField fields entry.1 := by
  -- The order is one of two letters, and the entry remembers which.
  refine ⟨?_, ?_⟩
  · rintro ⟨field, order, parts, named, rfl | rfl⟩
    · exact ⟨(field, true), parts, named⟩
    · exact ⟨(field, false), parts, named⟩
  · rintro ⟨⟨field, ascending⟩, parts, named⟩
    refine ⟨field, _, parts, named, ?_⟩
    cases ascending <;> simp

/-- Items are valid exactly if they ask for entries. -/
theorem forall_validItem_iff {fields : List NamedField} {items : List String} :
    (∀ item ∈ items, ValidItem fields item) ↔ ∃ entries, AskedFor fields items entries := by
  -- Each item is one entry.
  induction items with
  | nil => exact ⟨fun _ => ⟨[], rfl, by simp⟩, fun _ => by simp⟩
  | cons item rest ih =>
    rw [List.forall_mem_cons, ih, validItem_iff]
    refine ⟨fun ⟨⟨entry, parts, named⟩, entries, tokens, all⟩ =>
      ⟨entry :: entries, by simp [parts, tokens], by simpa [named] using all⟩, ?_⟩
    rintro ⟨entries, tokens, all⟩
    cases entries with
    | nil => simp at tokens
    | cons entry entries =>
      simp only [List.map_cons, List.cons.injEq] at tokens
      rw [List.forall_mem_cons] at all
      exact ⟨⟨entry, tokens.1, all.1⟩, entries, tokens.2, all.2⟩

/-- The text of an entry is not empty. -/
theorem OrderEntry.text_ne (entry : OrderEntry) (front : String) : front ++ entry.text ≠ "" := by
  obtain ⟨field, ascending⟩ := entry
  intro same
  have nothing := congrArg String.toList same
  cases ascending <;> simp [OrderEntry.text] at nothing

/-- A round of the loop appends a valid item, and any other item ends the loop. -/
theorem orderItems_cons {fields : List NamedField} {fieldNames : ExtTreeMap String Nat}
    (known : ∀ name, toLower name ∈ fieldNames ↔ IsField fields name) (itemList item : String)
    (rest : List String) (out : String) :
    orderItems fieldNames itemList (item :: rest) = some out ↔
      ∃ entry : OrderEntry, (stringTokens ':' item = entry.parts ∧ IsField fields entry.1) ∧
        orderItems fieldNames ((if itemList ≠ "" then itemList ++ " , " else itemList) ++ entry.text) rest =
          some out := by
  refine ⟨fun read => ?_, ?_⟩
  · rw [orderItems] at read
    split at read
    · rename_i field order parts
      split at read
      · simp at read
      · rename_i direction
        simp only at read
        split at read
        · rename_i named
          -- The order is one of the two, which the entry remembers.
          have either : order = "a" ∨ order = "d" := by
            by_contra neither
            exact direction (not_or.mp neither)
          refine ⟨(field, order = "a"), ⟨?_, (known field).mp named⟩, ?_⟩
          · rw [parts]
            rcases either with rfl | rfl <;> rfl
          · rw [← read, OrderEntry.text, String.append_assoc]
            rcases either with rfl | rfl <;> rfl
        · simp at read
    · simp at read
  · rintro ⟨⟨field, ascending⟩, ⟨parts, named⟩, read⟩
    have member := (known field).mpr named
    rw [orderItems, parts, ← read]
    cases ascending <;> simp [OrderEntry.parts, OrderEntry.text, member, String.append_assoc]

/-- The first of some entries has no separator in front. -/
theorem intercalate_entries (entry : OrderEntry) (entries : List OrderEntry) :
    " , ".intercalate (entry.text :: entries.map OrderEntry.text) =
      entry.text ++ String.join (entries.map fun entry => " , " ++ entry.text) := by
  -- By the entries; a separator goes in front of each that follows another one.
  induction entries generalizing entry with
  | nil => simp
  | cons next entries ih =>
    rw [List.map_cons, String.intercalate_cons_of_ne_nil (by simp), ih next]
    simp [String.append_assoc]

/-- The loop appends the entries that the items ask for, each with a separator in front but for the first. -/
theorem orderItems_iff {fields : List NamedField} {fieldNames : ExtTreeMap String Nat}
    (known : ∀ name, toLower name ∈ fieldNames ↔ IsField fields name) (items : List String)
    (itemList out : String) :
    orderItems fieldNames itemList items = some out ↔
      ∃ entries, AskedFor fields items entries ∧
        out = if itemList = "" then " , ".intercalate (entries.map OrderEntry.text)
          else itemList ++ String.join (entries.map fun entry => " , " ++ entry.text) := by
  -- By the items; the list is empty before the first round only.
  induction items generalizing itemList with
  | nil =>
    refine ⟨fun same => ⟨[], ⟨rfl, by simp⟩, ?_⟩, ?_⟩
    · obtain rfl : itemList = out := by simpa [orderItems] using same
      by_cases empty : itemList = "" <;> simp [empty]
    · rintro ⟨entries, ⟨tokens, -⟩, rfl⟩
      obtain rfl : entries = [] := by simpa using tokens.symm
      by_cases empty : itemList = "" <;> simp [orderItems, empty]
  | cons item rest ih =>
    rw [orderItems_cons known]
    simp only [ih, OrderEntry.text_ne, if_false]
    refine ⟨?_, ?_⟩
    · rintro ⟨entry, ⟨parts, named⟩, entries, ⟨tokens, all⟩, rfl⟩
      refine ⟨entry :: entries, ⟨by simp [parts, tokens], by simpa [named] using all⟩, ?_⟩
      by_cases empty : itemList = ""
      · simp [empty, intercalate_entries]
      · simp [empty, String.append_assoc]
    · rintro ⟨entries, ⟨tokens, all⟩, rfl⟩
      cases entries with
      | nil => simp at tokens
      | cons entry entries =>
        simp only [List.map_cons, List.cons.injEq] at tokens
        rw [List.forall_mem_cons] at all
        refine ⟨entry, ⟨tokens.1, all.1⟩, entries, ⟨tokens.2, all.2⟩, ?_⟩
        by_cases empty : itemList = ""
        · simp [empty, intercalate_entries]
        · simp [empty, String.append_assoc]

/-- The constructor knows the names of the fields, in any case. -/
theorem mem_fieldNames_newDB (type : DBType) (tableName : Identifier) (fields : List NamedField)
    (indexes : List Index) (name : String) :
    toLower name ∈ (newDB type tableName fields indexes).fieldNames ↔ IsField fields name := by
  -- What the constructor makes of the indexes does not touch the names.
  have same : (newDB type tableName fields indexes).fieldNames =
      (addFields { tableName := tableName.text, type := type } true 0 fields).fieldNames := by
    unfold newDB
    cases indexes <;> cases type <;> rfl
  rw [same, mem_fieldNames]
  simp [IsField]

/-- A list has no items only if it is empty. -/
theorem stringTokens_eq_nil {separator : Char} {text : String} :
    stringTokens separator text = [] ↔ text = "" := by
  -- A character that is no separator begins a token.
  unfold stringTokens
  split
  · rename_i empty
    simp [empty]
  · rename_i nonempty
    simp [nonempty, List.splitOn_ne_nil]

/--
`PrepareOrderBy` accepts exactly the lists whose items are fields with an order, and writes nothing but them.

A list that is accepted becomes an order clause with these fields in order, unless it is empty; what is
returned is otherwise the text that was there before.
-/
theorem prepareOrderBy_spec (type : DBType) (tableName : Identifier) (fields : List NamedField)
    (indexes : List Index) (orderByList orderByString : String) :
    let result := (newDB type tableName fields indexes).prepareOrderBy orderByList orderByString
    (result.1 = true ↔ ∀ item ∈ stringTokens ',' orderByList, ValidItem fields item) ∧
      (result.1 = true → orderByList ≠ "" → ∃ entries, AskedFor fields (stringTokens ',' orderByList) entries ∧
        result.2 = " ORDER BY " ++ " , ".intercalate (entries.map OrderEntry.text)) ∧
      ((result.1 = false ∨ orderByList = "") → result.2 = orderByString) ∧
      (result.2 = orderByString ∨ ∃ pieces, result.2 = " ORDER BY " ++ String.join pieces ∧
        ∀ piece ∈ pieces, IsField fields piece ∨ piece = " ASC" ∨ piece = " DESC" ∨ piece = " , ") := by
  intro outcome
  have result : (newDB type tableName fields indexes).prepareOrderBy orderByList orderByString = outcome := rfl
  clear_value outcome
  obtain ⟨accepted, written⟩ := outcome
  have loop := orderItems_iff (mem_fieldNames_newDB type tableName fields indexes)
    (stringTokens ',' orderByList) ""
  rw [forall_validItem_iff]
  unfold DB.prepareOrderBy at result
  cases read : orderItems (newDB type tableName fields indexes).fieldNames "" (stringTokens ',' orderByList) with
  | none =>
    -- Entries would have been read.
    rw [read] at result loop
    obtain ⟨rfl, rfl⟩ : false = accepted ∧ orderByString = written := by simpa using result
    refine ⟨⟨by simp, fun ⟨entries, asked⟩ => ?_⟩, by simp, by simp, Or.inl rfl⟩
    simpa using (loop _).mpr ⟨entries, asked, rfl⟩
  | some itemList =>
    rw [read] at result
    obtain ⟨entries, asked, text⟩ := (loop itemList).mp read
    simp only [if_true] at text
    obtain ⟨rfl, same⟩ : true = accepted ∧ _ = written := by simpa only [Prod.mk.injEq] using result
    cases entries with
    | nil =>
      -- Without items the list is empty, and so is the clause.
      have empty : orderByList = "" := stringTokens_eq_nil.mp (by simpa using asked.1)
      have unchanged : orderByString = written := by simpa [text] using same
      exact ⟨⟨fun _ => ⟨[], asked⟩, fun _ => rfl⟩, fun _ nonempty => absurd empty nonempty, fun _ => unchanged.symm,
        Or.inl unchanged.symm⟩
    | cons entry entries =>
      have nonempty : itemList ≠ "" := by
        rw [text, List.map_cons, intercalate_entries]
        intro none
        have nothing := congrArg String.toList none
        rw [String.toList_append] at nothing
        exact entry.text_ne "" (String.toList_inj.mp (by simpa using (List.append_eq_nil_iff.mp nothing).1))
      rw [if_pos nonempty] at same
      have listed : orderByList ≠ "" := by
        rintro rfl
        simp [AskedFor, stringTokens] at asked
      refine ⟨⟨fun _ => ⟨_, asked⟩, fun _ => rfl⟩, fun _ _ => ⟨_, asked, by rw [← same, text]⟩,
        fun none => by simp [listed] at none, Or.inr ?_⟩
      -- Every entry is two pieces, and a separator stands in front of all but the first.
      refine ⟨[entry.1, if entry.2 then " ASC" else " DESC"] ++ entries.flatMap fun entry =>
        [" , ", entry.1, if entry.2 then " ASC" else " DESC"], ?_, ?_⟩
      · rw [← same, text, List.map_cons, intercalate_entries]
        refine congrArg (" ORDER BY " ++ ·) (String.toList_inj.mp ?_)
        simp [OrderEntry.text, List.flatMap_assoc, List.flatMap_map]
      · have order : ∀ ascending : Bool, (if ascending then " ASC" else " DESC") = " ASC" ∨
            (if ascending then " ASC" else " DESC") = " DESC" := by decide
        intro piece member
        simp only [List.cons_append, List.nil_append, List.mem_cons, List.mem_flatMap, List.not_mem_nil,
          or_false] at member
        rcases member with rfl | rfl | ⟨other, place, rfl | rfl | rfl⟩
        · exact Or.inl (asked.2 entry List.mem_cons_self)
        · exact (order entry.2).elim (fun asc => by simp [asc]) fun desc => by simp [desc]
        · simp
        · exact Or.inl (asked.2 other (List.mem_cons_of_mem entry place))
        · exact (order other.2).elim (fun asc => by simp [asc]) fun desc => by simp [desc]

end Orm

end Fms
