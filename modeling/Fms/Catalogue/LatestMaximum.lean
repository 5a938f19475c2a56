import Mathlib.Data.List.Pairwise
import Fms.Catalogue.CacheCoherence

/-! The cache of the newest firmwares as a maximum over everything that has been added to it. -/

namespace Fms

namespace LatestFirmwareCache

/-- An addition that meets a condition, behind which no later one and before which none above it does. -/
def LastNewest (condition : Addition → Bool) (additions : List Addition) (a : Addition) : Prop :=
  condition a = true ∧ ∃ front back, additions = front ++ a :: back ∧
    (∀ x ∈ front, condition x = true → x.timeStamp ≤ a.timeStamp) ∧
    ∀ x ∈ back, condition x = true → x.timeStamp < a.timeStamp

/-- No two additions of one device type have the same time stamp. -/
def DistinctStamps (additions : List Addition) : Prop :=
  additions.Pairwise fun left right =>
    left.deviceType = right.deviceType → left.timeStamp ≠ right.timeStamp

variable {additions : List Addition}

/-- Additions of one type and one time stamp are one addition where the stamps are distinct. -/
theorem DistinctStamps.eq (distinct : DistinctStamps additions) {left right : Addition}
    (inLeft : left ∈ additions) (inRight : right ∈ additions)
    (type : left.deviceType = right.deviceType) (stamp : left.timeStamp = right.timeStamp) :
    left = right := by
  -- Two different members would be a pair with one type and one stamp.
  by_contra other
  have symmetric : Std.Symm fun left right : Addition =>
      left.deviceType = right.deviceType → left.timeStamp ≠ right.timeStamp :=
    ⟨fun _ _ apart same => (apart same.symm).symm⟩
  exact distinct.forall inLeft inRight other type stamp

/-- The newest of the additions that meet a condition gives the entry that is found. -/
theorem newest_entry_eq_some (condition : Addition → Bool) (entry : LatestFirmwareCacheEntry) :
    (Newest.newest Addition.rank (additions.filter condition)).map Addition.entry = some entry ↔
      ∃ a, LastNewest condition additions a ∧ a.entry = entry := by
  -- Ranks compare like the time stamps they are read from.
  simp only [Option.map_eq_some_iff, Newest.newest_eq_some, Newest.isNewest_filter_iff, LastNewest,
    Addition.rank, UInt64.le_iff_toNat_le, UInt64.lt_iff_toNat_lt]

/-- There is no entry exactly when no addition meets the condition. -/
theorem newest_entry_eq_none (condition : Addition → Bool) :
    (Newest.newest Addition.rank (additions.filter condition)).map Addition.entry = none ↔
      ∀ a ∈ additions, condition a = false := by
  simp [Newest.newest_eq_none]

/-- The order of additions with distinct stamps does not matter to a competition within a type. -/
theorem newest_entry_perm (distinct : DistinctStamps additions) {permuted : List Addition}
    (perm : permuted.Perm additions) {condition : Addition → Bool} {t : String}
    (within : ∀ a, condition a = true → a.deviceType = t) :
    Newest.newest Addition.rank (permuted.filter condition) =
      Newest.newest Addition.rank (additions.filter condition) := by
  -- Two additions that tie are of one type and one stamp, so they are the same addition.
  refine Newest.newest_perm (perm.filter condition) fun x inX y inY tie => ?_
  obtain ⟨addedX, metX⟩ := List.mem_filter.mp inX
  obtain ⟨addedY, metY⟩ := List.mem_filter.mp inY
  exact distinct.eq addedX addedY ((within x metX).trans (within y metY).symm) (UInt64.toNat_inj.mp tie)

/-- Additions with distinct stamps build the same cache in every order. -/
theorem ofAdditions_perm (distinct : DistinctStamps additions) {permuted : List Addition}
    (perm : permuted.Perm additions) : ofAdditions permuted = ofAdditions additions := by
  -- The two maps are competitions within a type, and the two sets have no order.
  refine ext_get ?_ ?_ ?_ ?_
  · intro t
    rw [getElem?_cache, getElem?_cache,
      newest_entry_perm distinct perm fun a met => by simpa [ofType] using met]
  · intro t
    have within (a : Addition) (met : rcOfType t a = true) : a.deviceType = t := by
      simp only [rcOfType, ofType, Bool.and_eq_true, decide_eq_true_eq] at met
      exact met.1
    rw [getElem?_rcCache, getElem?_rcCache, newest_entry_perm distinct perm within]
  · intro r
    simp only [mem_revisionSet, perm.mem_iff]
  · intro t
    simp only [mem_deviceSet, perm.mem_iff]

/--
The cache computes the maximum of what has been added to it.

Each lookup finds the last of the newest additions of a type, and the two sets hold all that was added.
Where the time stamps within each type are distinct, the order of the additions makes no difference.
-/
theorem computes_newest (additions : List Addition) :
    (∀ (t : String) (entry : LatestFirmwareCacheEntry),
      (ofAdditions additions).findLatestFirmware t = some entry ↔
        ∃ a, LastNewest (ofType t) additions a ∧ a.entry = entry) ∧
      (∀ t : String, (ofAdditions additions).findLatestFirmware t = none ↔
        ∀ a ∈ additions, a.deviceType ≠ t) ∧
      (∀ (t : String) (entry : LatestFirmwareCacheEntry),
        (ofAdditions additions).findLatestRCOnlyFirmware t = some entry ↔
          ∃ a, LastNewest (rcOfType t) additions a ∧ a.entry = entry) ∧
      (∀ t : String, (ofAdditions additions).findLatestRCOnlyFirmware t = none ↔
        ∀ a ∈ additions, a.deviceType = t → isRC a.revision = false) ∧
      (∀ r : String, r ∈ (ofAdditions additions).getRevisions ↔ ∃ a ∈ additions, a.revision = r) ∧
      (∀ t : String, t ∈ (ofAdditions additions).getDevices ↔ ∃ a ∈ additions, a.deviceType = t) ∧
      (DistinctStamps additions → ∀ permuted : List Addition, permuted.Perm additions →
        ofAdditions permuted = ofAdditions additions) := by
  -- Each lookup is a competition among the additions, for an entry or for none.
  refine ⟨?_, ?_, ?_, ?_, mem_revisionSet additions, mem_deviceSet additions,
    fun distinct permuted perm => ofAdditions_perm distinct perm⟩
  · intro t entry
    rw [findLatestFirmware, getElem?_cache]
    exact newest_entry_eq_some (ofType t) entry
  · intro t
    rw [findLatestFirmware, getElem?_cache, newest_entry_eq_none]
    simp [ofType]
  · intro t entry
    rw [findLatestRCOnlyFirmware, getElem?_rcCache]
    exact newest_entry_eq_some (rcOfType t) entry
  · intro t
    rw [findLatestRCOnlyFirmware, getElem?_rcCache, newest_entry_eq_none]
    simp [rcOfType, ofType]

end LatestFirmwareCache

namespace FirmwaresDB

/-- A restart builds the same cache in whatever order the database lists the rows. -/
theorem restart_perm (type : DBType) {left right : Catalogue}
    (perm : left.firmwares.rows.Perm right.firmwares.rows)
    (distinct : DistinctDates right.firmwares.rows) :
    (restart type left).latestFirmwareCache = (restart type right).latestFirmwareCache := by
  -- A restart adds the rows in the order in which they are listed.
  have built (c : Catalogue) : (restart type c).latestFirmwareCache =
      LatestFirmwareCache.ofAdditions (c.firmwares.rows.map addition) :=
    cache_populateLatestFirmwareCache type { c with latestFirmwareCache := {} }
  rw [built, built]
  refine LatestFirmwareCache.ofAdditions_perm ?_ (perm.map addition)
  -- The stamps of the additions are the dates of rows that differ.
  refine List.pairwise_map.mpr ?_
  have apart : right.firmwares.rows.Nodup := right.firmwares.distinct.of_map
  refine List.Pairwise.imp_of_mem ?_ apart
  intro a b inA inB other type_ stamp
  exact other (distinct a inA b inB type_ stamp)

end FirmwaresDB

end Fms
