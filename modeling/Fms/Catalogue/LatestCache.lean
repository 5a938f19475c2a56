import Mathlib.Data.Nat.Basic
import Fms.Poco.Text
import Fms.Relation.Newest

/-! `LatestFirmwareCache`: the newest firmware of each device type, and the values ever seen. -/

namespace Fms

/-- `LatestFirmwareCacheEntry`. -/
structure LatestFirmwareCacheEntry where
  id : String
  timeStamp : UInt64 := 0
  revision : String
  deriving DecidableEq, Repr

/-- `LatestFirmwareCacheMap`: a `std::map` from device types to entries. -/
abbrev LatestFirmwareCacheMap := Std.ExtTreeMap String LatestFirmwareCacheEntry

/-- The state of `LatestFirmwareCache`. -/
structure LatestFirmwareCache where
  cache : LatestFirmwareCacheMap := ∅
  rcCache : LatestFirmwareCacheMap := ∅
  revisionSet : Std.ExtTreeSet String := ∅
  deviceSet : Std.ExtTreeSet String := ∅

namespace LatestFirmwareCache

/-- `IsRC`: the second of exactly two parts separated by a slash starts with `TIP-v`. -/
def isRC (revision : String) : Bool :=
  match trimmedTokens '/' revision with
  | [_, second] => second.toList.take 5 = "TIP-v".toList
  | _ => false

example : isRC "OpenWrt 21.02-SNAPSHOT r16399+120-c67509efd7 / TIP-v2.5.0-36b5478" = true := by decide

/-- Write an entry unless a strictly later one is stored for the device type. -/
def record (entries : LatestFirmwareCacheMap) (deviceType : String)
    (entry : LatestFirmwareCacheEntry) : LatestFirmwareCacheMap :=
  match entries[deviceType]? with
  | none => entries.insert deviceType entry
  | some stored =>
    if entry.timeStamp ≥ stored.timeStamp then entries.insert deviceType entry else entries

/-- `AddToCache`, which reports success in every case. -/
def addToCache (c : LatestFirmwareCache) (deviceType revision id : String) (timeStamp : UInt64) :
    Bool × LatestFirmwareCache :=
  let entry : LatestFirmwareCacheEntry := ⟨id, timeStamp, revision⟩
  let seen : LatestFirmwareCache :=
    { c with
      revisionSet := c.revisionSet.insert revision
      deviceSet := c.deviceSet.insert deviceType
      cache := record c.cache deviceType entry }
  if !isRC revision then (true, seen)
  else (true, { seen with rcCache := record seen.rcCache deviceType entry })

/-- `FindLatestFirmware`. -/
def findLatestFirmware (c : LatestFirmwareCache) (deviceType : String) :
    Option LatestFirmwareCacheEntry :=
  c.cache[deviceType]?

/-- `FindLatestRCOnlyFirmware`. -/
def findLatestRCOnlyFirmware (c : LatestFirmwareCache) (deviceType : String) :
    Option LatestFirmwareCacheEntry :=
  c.rcCache[deviceType]?

/-- `IsLatest`. -/
def isLatest (c : LatestFirmwareCache) (deviceType revision : String) : Bool :=
  match c.cache[deviceType]? with
  | some entry => entry.revision = revision
  | none => false

/-- `GetRevisions`. -/
def getRevisions (c : LatestFirmwareCache) : Std.ExtTreeSet String := c.revisionSet

/-- `GetDevices`. -/
def getDevices (c : LatestFirmwareCache) : Std.ExtTreeSet String := c.deviceSet

/-- Two caches with the same entries and the same sets are the same cache. -/
theorem ext_get {left right : LatestFirmwareCache}
    (cache : ∀ t : String, left.cache[t]? = right.cache[t]?)
    (rcCache : ∀ t : String, left.rcCache[t]? = right.rcCache[t]?)
    (revisions : ∀ r : String, r ∈ left.revisionSet ↔ r ∈ right.revisionSet)
    (devices : ∀ t : String, t ∈ left.deviceSet ↔ t ∈ right.deviceSet) : left = right := by
  -- Maps and sets are determined by what is found in them.
  have sameCache := Std.ExtTreeMap.ext_getElem? cache
  have sameRc := Std.ExtTreeMap.ext_getElem? rcCache
  have sameRevisions := Std.ExtTreeSet.ext_mem revisions
  have sameDevices := Std.ExtTreeSet.ext_mem devices
  cases left
  cases right
  simp_all

/-- The arguments of one call to `AddToCache`. -/
structure Addition where
  deviceType : String
  revision : String
  id : String
  timeStamp : UInt64
  deriving DecidableEq, Repr

/-- The entry a call offers to the cache. -/
def Addition.entry (a : Addition) : LatestFirmwareCacheEntry := ⟨a.id, a.timeStamp, a.revision⟩

/-- The rank by which entries replace each other. -/
def Addition.rank (a : Addition) : Nat := a.timeStamp.toNat

/-- One call to `AddToCache`, keeping the state it leaves. -/
def add (c : LatestFirmwareCache) (a : Addition) : LatestFirmwareCache :=
  (c.addToCache a.deviceType a.revision a.id a.timeStamp).2

/-- The cache a list of calls builds from the empty one. -/
def ofAdditions (additions : List Addition) : LatestFirmwareCache :=
  additions.foldl add {}

@[simp] theorem addToCache_fst (c : LatestFirmwareCache) (deviceType revision id : String)
    (timeStamp : UInt64) : (c.addToCache deviceType revision id timeStamp).1 = true := by
  -- Both branches end with success.
  unfold addToCache
  split <;> rfl

/-- One more call is one more addition. -/
theorem ofAdditions_append_singleton (additions : List Addition) (a : Addition) :
    ofAdditions (additions ++ [a]) = (ofAdditions additions).add a := by
  simp [ofAdditions]

/-- Recording compares the new entry with the stored one of its own device type only. -/
theorem getElem?_record (entries : LatestFirmwareCacheMap) (a : Addition) (t : String)
    (additions : List Addition)
    (stored : entries[t]? = (Newest.newest Addition.rank additions).map Addition.entry) :
    (record entries a.deviceType a.entry)[t]? =
      (Newest.newest Addition.rank
        (additions ++ if a.deviceType = t then [a] else [])).map Addition.entry := by
  by_cases same : a.deviceType = t
  · -- The entry of this type is compared with the new one.
    subst same
    rw [if_pos rfl, Newest.newest_append_singleton, record, stored]
    cases best? : Newest.newest Addition.rank additions with
    | none => simp [Newest.newer]
    | some best =>
      -- The stored entry carries the rank of the best addition so far.
      have order : a.entry.timeStamp ≥ best.entry.timeStamp ↔ best.rank ≤ a.rank :=
        UInt64.le_iff_toNat_le
      by_cases later : best.rank ≤ a.rank
      · simp [Newest.newer, later, order.mpr later]
      · have earlier : ¬ a.entry.timeStamp ≥ best.entry.timeStamp := fun after => later (order.mp after)
        simp [Newest.newer, later, earlier, stored, best?]
  · -- The entries of the other types stay, whichever branch is taken.
    have other : (record entries a.deviceType a.entry)[t]? = entries[t]? := by
      unfold record
      split
      · simp [Std.ExtTreeMap.getElem?_insert, same]
      · split <;> simp [Std.ExtTreeMap.getElem?_insert, same]
    rw [other, stored, if_neg same, List.append_nil]

/-- The additions for one device type. -/
def ofType (t : String) (a : Addition) : Bool := a.deviceType = t

/-- The release candidates among the additions for one device type. -/
def rcOfType (t : String) (a : Addition) : Bool := ofType t a && isRC a.revision

/-- The cache holds, for every device type, the newest entry added for it. -/
theorem getElem?_cache (additions : List Addition) (t : String) :
    (ofAdditions additions).cache[t]? =
      (Newest.newest Addition.rank (additions.filter (ofType t))).map Addition.entry := by
  -- One call touches the entry of its own type only.
  induction additions using List.reverseRecOn with
  | nil => rfl
  | append_singleton before a ih =>
    have written : ((ofAdditions before).add a).cache =
        record (ofAdditions before).cache a.deviceType a.entry := by
      unfold add addToCache
      split <;> rfl
    rw [ofAdditions_append_singleton, written, getElem?_record _ a t _ ih]
    by_cases same : a.deviceType = t <;> simp [ofType, same]

/-- The release candidate cache holds, for every device type, the newest release candidate added. -/
theorem getElem?_rcCache (additions : List Addition) (t : String) :
    (ofAdditions additions).rcCache[t]? =
      (Newest.newest Addition.rank (additions.filter (rcOfType t))).map Addition.entry := by
  induction additions using List.reverseRecOn with
  | nil => rfl
  | append_singleton before a ih =>
    rw [ofAdditions_append_singleton]
    -- Only a release candidate reaches the second map.
    by_cases rc : isRC a.revision = true
    · have written : ((ofAdditions before).add a).rcCache =
          record (ofAdditions before).rcCache a.deviceType a.entry := by
        simp [add, addToCache, rc, Addition.entry]
      rw [written, getElem?_record _ a t _ ih]
      by_cases same : a.deviceType = t <;> simp [rcOfType, ofType, same, rc]
    · -- Other revisions leave the second map alone, and the filter drops them.
      have kept : ((ofAdditions before).add a).rcCache = (ofAdditions before).rcCache := by
        simp [add, addToCache, rc]
      rw [kept, ih]
      simp [rcOfType, rc]

/-- The revision set holds exactly the revisions added. -/
theorem mem_revisionSet (additions : List Addition) (r : String) :
    r ∈ (ofAdditions additions).revisionSet ↔ ∃ a ∈ additions, a.revision = r := by
  -- Every call inserts its revision, whatever happens to the entries.
  induction additions using List.reverseRecOn with
  | nil => simp [ofAdditions]
  | append_singleton before a ih =>
    have written : ((ofAdditions before).add a).revisionSet =
        (ofAdditions before).revisionSet.insert a.revision := by
      unfold add addToCache
      split <;> rfl
    rw [ofAdditions_append_singleton, written, Std.ExtTreeSet.mem_insert, ih]
    simp only [Std.compare_eq_iff_eq, List.mem_append, List.mem_singleton]
    grind

/-- The device set holds exactly the device types added. -/
theorem mem_deviceSet (additions : List Addition) (t : String) :
    t ∈ (ofAdditions additions).deviceSet ↔ ∃ a ∈ additions, a.deviceType = t := by
  -- Every call inserts its device type, whatever happens to the entries.
  induction additions using List.reverseRecOn with
  | nil => simp [ofAdditions]
  | append_singleton before a ih =>
    have written : ((ofAdditions before).add a).deviceSet =
        (ofAdditions before).deviceSet.insert a.deviceType := by
      unfold add addToCache
      split <;> rfl
    rw [ofAdditions_append_singleton, written, Std.ExtTreeSet.mem_insert, ih]
    simp only [Std.compare_eq_iff_eq, List.mem_append, List.mem_singleton]
    grind

end LatestFirmwareCache

end Fms
