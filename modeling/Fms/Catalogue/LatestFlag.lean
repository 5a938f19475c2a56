import Fms.Catalogue.FirmwaresLaws
import Fms.Relation.Run

/-! Runs of `AddFirmware`, and whether the stored flag marks the newest image of each device type. -/

namespace Fms.FirmwaresDB

/-- One call of `AddFirmware`. -/
structure AddCall where
  ctx : AddContext
  firmware : Firmware
  deriving DecidableEq, Repr

/-- The catalogue after a call. -/
def addStep (type : DBType) (c : Catalogue) (call : AddCall) : Catalogue :=
  (addFirmware type call.ctx c call.firmware).2.2

/-- The call reports success. -/
def Succeeds (type : DBType) (c : Catalogue) (call : AddCall) : Prop :=
  (addFirmware type call.ctx c call.firmware).1 = true

/-- The rows of a device type. -/
def rowsOfType (rows : List Firmware) (t : String) : List Firmware :=
  rows.filter fun row => decide (row.deviceType = t)

/-- The flagged rows of a device type. -/
def flaggedOfType (rows : List Firmware) (t : String) : List Firmware :=
  rows.filter fun row => decide (row.deviceType = t) && decide (row.latest = true)

/-- The rank of a row among the rows of its type. -/
def dateRank (row : Firmware) : Nat := row.imageDate.toNat

/--
Every device type with a row has exactly one flagged row.

It has the maximal image date of the type, and it is the last added of the rows with that date.
-/
def LatestFlagRight (rows : List Firmware) : Prop :=
  ∀ t, rowsOfType rows t ≠ [] →
    ∃ best, Newest.IsNewest dateRank (rowsOfType rows t) best ∧ flaggedOfType rows t = [best]

/-- No stored row of the added type has a later image. -/
def AddsNewest (c : Catalogue) (call : AddCall) : Prop :=
  ∀ row ∈ c.firmwares.rows,
    row.deviceType = call.firmware.deviceType → row.imageDate ≤ call.firmware.imageDate

instance (c : Catalogue) (call : AddCall) : Decidable (AddsNewest c call) :=
  inferInstanceAs (Decidable (∀ row ∈ c.firmwares.rows, _))

/-- The flagged rows of a type are rows of the type. -/
theorem flaggedOfType_subset {rows : List Firmware} {t : String} {row : Firmware}
    (flagged : row ∈ flaggedOfType rows t) : row ∈ rowsOfType rows t := by
  -- The second filter is the first one with a further condition.
  simp only [flaggedOfType, rowsOfType, List.mem_filter, Bool.and_eq_true] at flagged ⊢
  exact ⟨flagged.1, flagged.2.1⟩

/-- When the flag is right, a type has at most one flagged row. -/
theorem LatestFlagRight.at_most_one {rows : List Firmware} (right : LatestFlagRight rows)
    (t : String) : (flaggedOfType rows t).length ≤ 1 := by
  -- A type without rows has no flagged row, and any other has one.
  by_cases none_ : rowsOfType rows t = []
  · have empty : flaggedOfType rows t = [] := by
      refine List.eq_nil_iff_forall_not_mem.mpr fun row flagged => ?_
      have member := flaggedOfType_subset flagged
      rw [none_] at member
      exact absurd member List.not_mem_nil
    rw [empty]
    exact Nat.zero_le 1
  · obtain ⟨best, _, one⟩ := right t none_
    rw [one]
    exact Nat.le_refl 1

/-- With a plain type and at most one flagged row of it, an addition reads all flagged rows of the type. -/
theorem superseded_eq {type : DBType} {c : Catalogue} {t : String}
    (plain : Sql.Plain type.dialect t) (few : (flaggedOfType c.firmwares.rows t).length ≤ 1) :
    superseded type c t = flaggedOfType c.firmwares.rows t := by
  have matched := Orm.matching_of_clause (latestClause_denotes plain.spells) c.firmwares
  -- One page holds two hundred rows, so it cuts nothing off.
  have page : (flaggedOfType c.firmwares.rows t).take 200 = flaggedOfType c.firmwares.rows t :=
    List.take_of_length_le (by omega)
  have read : Orm.getRecords type c.firmwares 0 200 (latestClause t) =
      if (flaggedOfType c.firmwares.rows t).isEmpty then none
      else some (flaggedOfType c.firmwares.rows t) := by
    simp only [Orm.getRecords, matched, KeyedTable.select, Option.bind_eq_bind, Option.bind_some,
      List.drop_zero]
    rw [show c.firmwares.rows.filter (fun row => decide (row.deviceType = t) &&
      decide (row.latest = true)) = flaggedOfType c.firmwares.rows t from rfl, page]
  rw [superseded, read]
  cases flaggedOfType c.firmwares.rows t <;> rfl

variable {type : DBType} {c : Catalogue} {call : AddCall}

/-- A successful addition appends its record behind the old rows, the flagged ones of its type unflagged. -/
theorem rows_addStep (succeeds : Succeeds type c call)
    (plain : Sql.Plain type.dialect call.firmware.deviceType)
    (right : LatestFlagRight c.firmwares.rows) :
    (addStep type c call).firmwares.rows =
      c.firmwares.rows.map (unflag (flaggedOfType c.firmwares.rows call.firmware.deviceType)) ++
        [stored call.ctx call.firmware] := by
  obtain ⟨_, added | refused⟩ := addFirmware_cases type call.ctx c call.firmware
  · rw [← superseded_eq plain (right.at_most_one _)]
    exact added.2.1
  · exact absurd (succeeds.symm.trans refused.1) (by simp)

/-- Rows of another type are untouched by an addition. -/
theorem unflag_other {t : String} {row : Firmware} (present : row ∈ c.firmwares.rows)
    (other : row.deviceType ≠ t) : unflag (flaggedOfType c.firmwares.rows t) row = row := by
  refine if_neg fun read => ?_
  obtain ⟨flagged, member, same⟩ := List.mem_map.mp read
  simp only [flaggedOfType, List.mem_filter, Bool.and_eq_true, decide_eq_true_eq] at member
  -- The id names one row only, and the flagged row has the added type.
  have alike : flagged = row := KeyedTable.eq_of_key member.1 present same
  exact other (alike ▸ member.2.1)

/-- A flagged row of the added type loses its flag. -/
theorem unflag_same {t : String} {row : Firmware} (present : row ∈ c.firmwares.rows)
    (same : row.deviceType = t) : (unflag (flaggedOfType c.firmwares.rows t) row).latest = false := by
  -- If it kept its flag, it would not have been among the rows that were read.
  refine Bool.eq_false_iff.mpr fun flagged => ?_
  obtain ⟨before, absent⟩ := latest_unflag.mp flagged
  refine absent (List.mem_map_of_mem ?_)
  simp only [flaggedOfType, List.mem_filter, Bool.and_eq_true, decide_eq_true_eq]
  exact ⟨present, same, before⟩

/-- An addition leaves the rows and the flags of the other types as they were. -/
theorem otherType_addStep (succeeds : Succeeds type c call)
    (plain : Sql.Plain type.dialect call.firmware.deviceType)
    (right : LatestFlagRight c.firmwares.rows) {t : String} (other : call.firmware.deviceType ≠ t) :
    rowsOfType (addStep type c call).firmwares.rows t = rowsOfType c.firmwares.rows t ∧
      flaggedOfType (addStep type c call).firmwares.rows t = flaggedOfType c.firmwares.rows t := by
  have written := rows_addStep succeeds plain right
  -- Filtering by another type drops the new record, and it meets only rows the rewriting keeps.
  have general : ∀ keep : Firmware → Bool, (∀ row, keep row = true → row.deviceType = t) →
      (addStep type c call).firmwares.rows.filter keep = c.firmwares.rows.filter keep := by
    intro keep typed
    have dropped : keep (stored call.ctx call.firmware) = false :=
      Bool.eq_false_iff.mpr fun kept => other (typed (stored call.ctx call.firmware) kept)
    rw [written, List.filter_append, List.filter_singleton, dropped, List.filter_map]
    simp only [cond_false, List.append_nil]
    have same : ∀ row ∈ c.firmwares.rows,
        keep (unflag (flaggedOfType c.firmwares.rows call.firmware.deviceType) row) = keep row := by
      intro row present
      by_cases ofAdded : row.deviceType = call.firmware.deviceType
      · have out (r : Firmware) (alike : r.deviceType = row.deviceType) : keep r = false :=
          Bool.eq_false_iff.mpr fun kept => other (by rw [← ofAdded, ← alike, typed _ kept])
        rw [out _ (deviceType_unflag _ row), out row rfl]
      · rw [unflag_other present ofAdded]
    rw [List.filter_congr (q := keep) (by simpa using same)]
    refine (List.map_congr_left fun row member => ?_).trans (List.map_id' _)
    obtain ⟨present, kept⟩ := List.mem_filter.mp member
    exact unflag_other present fun ofAdded => other (ofAdded.symm.trans (typed row kept))
  -- Both filters ask for the other type.
  refine ⟨general _ fun row kept => by simpa using kept, general _ fun row kept => ?_⟩
  simp only [Bool.and_eq_true, decide_eq_true_eq] at kept
  exact kept.1

/-- An addition appends its record to the rows of its type, as the only flagged one. -/
theorem sameType_addStep (succeeds : Succeeds type c call)
    (plain : Sql.Plain type.dialect call.firmware.deviceType)
    (right : LatestFlagRight c.firmwares.rows) :
    rowsOfType (addStep type c call).firmwares.rows call.firmware.deviceType =
        (rowsOfType c.firmwares.rows call.firmware.deviceType).map
          (unflag (flaggedOfType c.firmwares.rows call.firmware.deviceType)) ++
        [stored call.ctx call.firmware] ∧
      flaggedOfType (addStep type c call).firmwares.rows call.firmware.deviceType =
        [stored call.ctx call.firmware] := by
  have written := rows_addStep succeeds plain right
  -- The new record is of the type, and no old row of it keeps its flag.
  constructor
  · rw [rowsOfType, written, List.filter_append, List.filter_map]
    simp [rowsOfType, Function.comp_def, stored]
  · have cleared : (c.firmwares.rows.map
        (unflag (flaggedOfType c.firmwares.rows call.firmware.deviceType))).filter
        (fun row => decide (row.deviceType = call.firmware.deviceType) && decide (row.latest = true)) =
        [] := by
      refine List.filter_eq_nil_iff.mpr fun row member => ?_
      obtain ⟨old, present, rfl⟩ := List.mem_map.mp member
      by_cases same : old.deviceType = call.firmware.deviceType
      · simp [unflag_same present same]
      · simp [same]
    rw [flaggedOfType, written, List.filter_append, cleared]
    simp [stored]

/-- After an addition the flag is right exactly when the added image was the newest of its type. -/
theorem latestFlagRight_addStep (succeeds : Succeeds type c call)
    (plain : Sql.Plain type.dialect call.firmware.deviceType)
    (right : LatestFlagRight c.firmwares.rows) :
    LatestFlagRight (addStep type c call).firmwares.rows ↔ AddsNewest c call := by
  obtain ⟨ofType, flagged⟩ := sameType_addStep succeeds plain right
  have newest : Newest.IsNewest dateRank
      (rowsOfType (addStep type c call).firmwares.rows call.firmware.deviceType)
      (stored call.ctx call.firmware) ↔ AddsNewest c call := by
    rw [ofType, Newest.isNewest_append_singleton]
    -- The flag is on the new record, so all depends on whether it is the newest.
    constructor
    · intro low row present same
      have member : row ∈ rowsOfType c.firmwares.rows call.firmware.deviceType := by
        simpa [rowsOfType] using ⟨present, same⟩
      simpa [dateRank, stored, UInt64.le_iff_toNat_le] using low _ (List.mem_map_of_mem member)
    · intro adds row member
      obtain ⟨old, inType, rfl⟩ := List.mem_map.mp member
      simp only [rowsOfType, List.mem_filter, decide_eq_true_eq] at inType
      simpa [dateRank, stored, UInt64.le_iff_toNat_le] using adds old inType.1 inType.2
  constructor
  · intro after
    obtain ⟨best, isBest, one⟩ := after call.firmware.deviceType (by simp [ofType])
    have alike : best = stored call.ctx call.firmware := by
      rw [flagged] at one
      exact (List.cons.inj one).1.symm
    exact newest.mp (alike ▸ isBest)
  · intro adds t some_
    by_cases same : call.firmware.deviceType = t
    · subst same
      exact ⟨_, newest.mpr adds, flagged⟩
    · obtain ⟨rows, flags⟩ := otherType_addStep succeeds plain right same
      rw [rows] at some_ ⊢
      rw [flags]
      exact right t some_

/-- The calls of a run succeed. -/
def AllSucceed (type : DBType) (c : Catalogue) (calls : List AddCall) : Prop :=
  Transition.Along (addStep type) (Succeeds type) c calls

/--
Along a run of successful additions the flag stays right exactly when every image is added in order.

The device types have to be plain, since the clause that finds the older rows quotes them unescaped.
-/
theorem latestFlag_right_iff (type : DBType) (calls : List AddCall)
    (succeed : AllSucceed type {} calls)
    (plain : ∀ call ∈ calls, Sql.Plain type.dialect call.firmware.deviceType) :
    (∀ c ∈ Transition.states (addStep type) {} calls, LatestFlagRight c.firmwares.rows) ↔
      Transition.Along (addStep type) AddsNewest {} calls := by
  -- One addition has been settled, and runs follow from single steps.
  have assumptions := Transition.along_and.mpr
    ⟨succeed, Transition.along_of_forall (addStep type) plain {}⟩
  have start : LatestFlagRight ({} : Catalogue).firmwares.rows := fun t some_ => absurd rfl some_
  refine Transition.property_iff_along (fun c => LatestFlagRight c.firmwares.rows)
    (fun _ => True) (fun _ _ _ _ _ _ => trivial) ?_ trivial start assumptions
  intro c call _ right assumed
  exact latestFlagRight_addStep assumed.1 assumed.2 right

/-- The addition of an image of one access point model. -/
def eap101 (uuid : String) (imageDate : UInt64) : AddCall where
  ctx := { uuid }
  firmware := { deviceType := "edgecore_eap101", imageDate }

instance (type : DBType) (c : Catalogue) (call : AddCall) : Decidable (Succeeds type c call) :=
  inferInstanceAs (Decidable (_ = true))

/-- Two images added in the order of their dates. -/
def inOrder : List AddCall := [eap101 "a" 50, eap101 "b" 100]

/-- Two images added in the order of their dates keep the flag right. -/
theorem latestFlag_right_in_order :
    LatestFlagRight (inOrder.foldl (addStep .sqlite) {}).firmwares.rows :=
  (latestFlag_right_iff .sqlite inOrder
    ⟨by decide +kernel, by decide +kernel, trivial⟩ (by decide)).mpr
    ⟨by decide +kernel, by decide +kernel, trivial⟩ _ (Transition.last_mem_states _ inOrder)

/-- An older image added after a newer one takes the flag away from it. -/
theorem latestFlag_wrong_for_older :
    AllSucceed .sqlite {} [eap101 "a" 100, eap101 "b" 50] ∧
      ¬ LatestFlagRight
        ([eap101 "a" 100, eap101 "b" 50].foldl (addStep .sqlite) {}).firmwares.rows := by
  refine ⟨⟨by decide +kernel, by decide +kernel, trivial⟩, fun right => ?_⟩
  have rows : ([eap101 "a" 100, eap101 "b" 50].foldl (addStep .sqlite) {}).firmwares.rows =
      [{ (eap101 "a" 100).firmware with id := "a" },
        stored { uuid := "b" } (eap101 "b" 50).firmware] := by decide +kernel
  rw [rows] at right
  obtain ⟨best, isBest, flagged⟩ := right "edgecore_eap101" (by decide)
  -- The flagged row is the second one, dated before the first.
  have second : stored { uuid := "b" } (eap101 "b" 50).firmware = best :=
    (List.cons.inj flagged).1
  have later := isBest.le (x := { (eap101 "a" 100).firmware with id := "a" }) (by decide)
  rw [← second] at later
  exact absurd later (by decide)

end Fms.FirmwaresDB
