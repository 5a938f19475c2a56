import Fms.Catalogue.CacheCoherence

/-! What the entries of the cache say about the stored rows, and why the age of a firmware is exact. -/

namespace Fms

namespace LatestFirmwareCache

/--
The entries of a cache agree with the rows it has been told of.

No row is younger than the entry of its type, and an entry with the id of a row is the row's own.
-/
structure Dated (cache : LatestFirmwareCache) (additions : List Addition) : Prop where
  covers : ∀ a ∈ additions, ∃ newest, cache.cache[a.deviceType]? = some newest ∧
    a.timeStamp ≤ newest.timeStamp
  names : ∀ (t : String) (newest : LatestFirmwareCacheEntry), cache.cache[t]? = some newest →
    ∀ a ∈ additions, a.id = newest.id → a.deviceType = t ∧ a.entry = newest

/-- An id that no row and no entry has. -/
structure Unused (cache : LatestFirmwareCache) (additions : List Addition) (id : String) : Prop where
  rows : ∀ a ∈ additions, a.id ≠ id
  entries : ∀ (t : String) (newest : LatestFirmwareCacheEntry), cache.cache[t]? = some newest →
    newest.id ≠ id

variable {cache : LatestFirmwareCache} {additions : List Addition}

/-- An addition is recorded among the newest entries. -/
theorem cache_add (cache : LatestFirmwareCache) (a : Addition) :
    (cache.add a).cache = record cache.cache a.deviceType a.entry := by
  unfold add addToCache
  split <;> rfl

/-- Recording an entry leaves the entries of the other types alone. -/
theorem getElem?_record_of_ne (entries : LatestFirmwareCacheMap) {deviceType t : String}
    (other : deviceType ≠ t) (entry : LatestFirmwareCacheEntry) :
    (record entries deviceType entry)[t]? = entries[t]? := by
  unfold record
  split
  · simp [Std.ExtTreeMap.getElem?_insert, other]
  · split <;> simp [Std.ExtTreeMap.getElem?_insert, other]

/-- After recording, a type has the new entry, or a stored one that is strictly later. -/
theorem getElem?_record_self (entries : LatestFirmwareCacheMap) (deviceType : String)
    (entry : LatestFirmwareCacheEntry) :
    ((record entries deviceType entry)[deviceType]? = some entry ∧
        ∀ stored, entries[deviceType]? = some stored → stored.timeStamp ≤ entry.timeStamp) ∨
      ∃ stored, entries[deviceType]? = some stored ∧ entry.timeStamp < stored.timeStamp ∧
        (record entries deviceType entry)[deviceType]? = some stored := by
  unfold record
  cases found : entries[deviceType]? with
  | none => exact Or.inl ⟨by simp, by simp⟩
  | some stored =>
    by_cases later : entry.timeStamp ≥ stored.timeStamp
    · refine Or.inl ⟨by simp [later], ?_⟩
      intro other same
      obtain rfl : stored = other := Option.some.inj same
      exact later
    · -- The stored entry stays, because it is strictly later.
      refine Or.inr ⟨stored, rfl, UInt64.not_le.mp later, ?_⟩
      simp [later, found]

/-- Fewer rows keep the agreement. -/
theorem Dated.mono (dated : Dated cache additions) {fewer : List Addition}
    (within : ∀ a ∈ fewer, a ∈ additions) : Dated cache fewer :=
  ⟨fun a member => dated.covers a (within a member),
    fun t newest found a member => dated.names t newest found a (within a member)⟩

/-- A row that is added under an unused id keeps the agreement. -/
theorem Dated.add (dated : Dated cache additions) {a : Addition}
    (unused : Unused cache additions a.id) : Dated (cache.add a) (additions ++ [a]) := by
  have self := getElem?_record_self cache.cache a.deviceType a.entry
  have others {t : String} (other : a.deviceType ≠ t) :
      (cache.add a).cache[t]? = cache.cache[t]? := by
    rw [cache_add, getElem?_record_of_ne _ other]
  rw [← cache_add] at self
  -- Only the entry of the type of the new row can change.
  constructor
  · intro row member
    rcases List.mem_append.mp member with old | new
    · obtain ⟨newest, found, bound⟩ := dated.covers row old
      by_cases same : a.deviceType = row.deviceType
      · -- The entry of this type has been replaced by one that is no earlier, or has stayed.
        rw [← same] at found ⊢
        rcases self with ⟨replaced, all⟩ | ⟨stored, before, _, kept⟩
        · exact ⟨a.entry, replaced, UInt64.le_trans bound (all newest found)⟩
        · obtain rfl : newest = stored := Option.some.inj (found.symm.trans before)
          exact ⟨newest, kept, bound⟩
      · exact ⟨newest, (others same).trans found, bound⟩
    · rw [List.mem_singleton.mp new]
      rcases self with ⟨replaced, _⟩ | ⟨stored, _, later, kept⟩
      · exact ⟨a.entry, replaced, UInt64.le_refl _⟩
      · exact ⟨stored, kept, UInt64.le_of_lt later⟩
  · -- The id of the new row is in no old entry, and no old row has the id of the new entry.
    have old {t : String} {newest : LatestFirmwareCacheEntry}
        (found : cache.cache[t]? = some newest) :
        ∀ row ∈ additions ++ [a], row.id = newest.id → row.deviceType = t ∧ row.entry = newest := by
      intro row member same
      rcases List.mem_append.mp member with before | new
      · exact dated.names t newest found row before same
      · rw [List.mem_singleton.mp new] at same
        exact absurd same.symm (unused.entries t newest found)
    intro t newest found row member same
    by_cases own : a.deviceType = t
    · subst own
      rcases self with ⟨replaced, _⟩ | ⟨stored, before, _, kept⟩
      · obtain rfl : a.entry = newest := Option.some.inj (replaced.symm.trans found)
        rcases List.mem_append.mp member with before | new
        · exact absurd same (unused.rows row before)
        · rw [List.mem_singleton.mp new]
          exact ⟨rfl, rfl⟩
      · obtain rfl : stored = newest := Option.some.inj (kept.symm.trans found)
        exact old before row member same
    · exact old ((others own).symm.trans found) row member same

/-- An entry of a cache built from additions is one of them. -/
theorem mem_of_cache_ofAdditions {t : String} {newest : LatestFirmwareCacheEntry}
    (found : (ofAdditions additions).cache[t]? = some newest) :
    ∃ a ∈ additions, a.deviceType = t ∧ a.entry = newest := by
  -- The newest addition of a type is an addition.
  rw [getElem?_cache] at found
  obtain ⟨best, best?, rfl⟩ := Option.map_eq_some_iff.mp found
  obtain ⟨stored, type⟩ := List.mem_filter.mp (Newest.isNewest_of_newest best?).mem
  exact ⟨best, stored, by simpa [ofType] using type, rfl⟩

/-- A cache built from rows with distinct ids agrees with them. -/
theorem dated_ofAdditions (distinct : (additions.map Addition.id).Nodup) :
    Dated (ofAdditions additions) additions := by
  constructor
  · intro a member
    have listed : a ∈ additions.filter (ofType a.deviceType) :=
      List.mem_filter.mpr ⟨member, by simp [ofType]⟩
    rw [getElem?_cache]
    -- A row of the type is among its additions, so there is a newest one.
    cases best? : Newest.newest Addition.rank (additions.filter (ofType a.deviceType)) with
    | none =>
      rw [Newest.newest_eq_none.mp best?] at listed
      exact absurd listed List.not_mem_nil
    | some best =>
      have bound := (Newest.isNewest_of_newest best?).le listed
      exact ⟨best.entry, rfl, UInt64.le_iff_toNat_le.mpr bound⟩
  · intro t newest found a member same
    obtain ⟨best, stored, type, rfl⟩ := mem_of_cache_ofAdditions found
    -- The id belongs to one row only, the one the entry was made from.
    obtain rfl : a = best := List.inj_on_of_nodup_map distinct member stored same
    exact ⟨type, rfl⟩

end LatestFirmwareCache

namespace FirmwaresDB

/-- What the cache would be told of the stored rows. -/
def seen (c : Catalogue) : List LatestFirmwareCache.Addition :=
  c.firmwares.rows.map addition

/-- The ids an operation takes from the generator. -/
def generated : Operation → List String
  | .add ctx _ => [ctx.uuid]
  | .put .. | .delete _ | .removeOld .. | .prune _ | .restart => []

/-- The generator repeats neither the id of a row nor an id it has given out. -/
def FreshIds (c : Catalogue) (ops : List Operation) : Prop :=
  (c.firmwares.rows.map Firmware.id ++ ops.flatMap generated).Nodup

instance (c : Catalogue) (ops : List Operation) : Decidable (FreshIds c ops) :=
  inferInstanceAs (Decidable (List.Nodup _))

/-- The entries of the cache agree with the stored rows. -/
def Dated (c : Catalogue) : Prop :=
  c.latestFirmwareCache.Dated (seen c)

/-- All ids in the table and in the cache are among the given ones. -/
def Within (ids : List String) (c : Catalogue) : Prop :=
  ∀ id, id ∉ ids → c.latestFirmwareCache.Unused (seen c) id

variable {type : DBType} {c : Catalogue}

/-- A restart populates the cache from the rows alone. -/
theorem cache_restart (type : DBType) (c : Catalogue) :
    (restart type c).latestFirmwareCache = LatestFirmwareCache.ofAdditions (seen c) :=
  cache_populateLatestFirmwareCache type { c with latestFirmwareCache := {} }

/-- After an addition the cache would be told of the new row besides the old ones, or of the old ones. -/
theorem seen_add (type : DBType) (c : Catalogue) (ctx : AddContext) (F : Firmware) :
    ∀ a ∈ seen (operate type c (.add ctx F)), a ∈ seen c ++ [addition (stored ctx F)] := by
  intro a member
  obtain ⟨_, outcome⟩ := addFirmware_cases type ctx c F
  have unseen : (c.firmwares.rows.map (unflag (superseded type c F.deviceType))).map addition =
      seen c := by
    rw [List.map_map]
    exact List.map_congr_left fun row _ => addition_unflag _ row
  -- The insertion has been executed, or only the flags have changed.
  rcases outcome with ⟨_, rows, _⟩ | ⟨_, rows⟩
  · rw [seen, operate, rows, List.map_append, unseen, List.map_singleton] at member
    exact member
  · rw [seen, operate, rows, unseen] at member
    exact List.mem_append_left _ member

/-- An operation keeps the cache, rebuilds it from the rows, or adds one row to it. -/
theorem seen_operate (type : DBType) (c : Catalogue) (op : Operation) :
    (generated op = [] ∧ (operate type c op).latestFirmwareCache = c.latestFirmwareCache ∧
        ∀ a ∈ seen (operate type c op), a ∈ seen c) ∨
      (generated op = [] ∧ seen (operate type c op) = seen c ∧
        (operate type c op).latestFirmwareCache = LatestFirmwareCache.ofAdditions (seen c)) ∨
      ∃ a : LatestFirmwareCache.Addition, generated op = [a.id] ∧
        (operate type c op).latestFirmwareCache = c.latestFirmwareCache.add a ∧
        ∀ other ∈ seen (operate type c op), other ∈ seen c ++ [a] := by
  -- A deletion keeps some of the rows, and the cache as it is.
  have deletion (kept : (operate type c op).latestFirmwareCache = c.latestFirmwareCache ∧
      (operate type c op).firmwares.rows = c.firmwares.rows.filter fun row => !deletes op row) :
      (operate type c op).latestFirmwareCache = c.latestFirmwareCache ∧
        ∀ a ∈ seen (operate type c op), a ∈ seen c := by
    refine ⟨kept.1, fun a member => ?_⟩
    rw [seen, kept.2] at member
    exact (List.filter_sublist.map addition).subset member
  -- The operations come in three kinds: those that delete, the restart, and the addition.
  cases op with
  | add ctx F =>
    right
    right
    exact ⟨addition (stored ctx F), rfl, (addFirmware_cases type ctx c F).1, seen_add type c ctx F⟩
  | put now email uuid edit =>
    left
    obtain ⟨cache, rows⟩ := additions_doPut now email c uuid edit
    refine ⟨rfl, cache, fun a member => ?_⟩
    rw [seen, operate, rows] at member
    exact member
  | delete uuid => exact Or.inl ⟨rfl, deletion (operate_deletion type c (Or.inl ⟨uuid, rfl⟩))⟩
  | removeOld now maxAge =>
    exact Or.inl ⟨rfl, deletion (operate_deletion type c (Or.inr (Or.inl ⟨now, maxAge, rfl⟩)))⟩
  | prune bucket =>
    exact Or.inl ⟨rfl, deletion (operate_deletion type c (Or.inr (Or.inr ⟨bucket, rfl⟩)))⟩
  | restart =>
    right
    left
    exact ⟨rfl, rfl, cache_restart type c⟩

/-- The rows are told apart by their ids. -/
theorem nodup_seen (c : Catalogue) :
    ((seen c).map LatestFirmwareCache.Addition.id).Nodup := by
  -- What the cache is told of a row keeps the id of the row.
  have ids : (seen c).map LatestFirmwareCache.Addition.id = c.firmwares.rows.map Firmware.id := by
    rw [seen, List.map_map]
    rfl
  rw [ids]
  exact c.firmwares.distinct

/-- An operation under unused ids keeps the entries in agreement with the rows. -/
theorem dated_operate (dated : Dated c) {op : Operation}
    (unused : ∀ id ∈ generated op, c.latestFirmwareCache.Unused (seen c) id) :
    Dated (operate type c op) := by
  unfold Dated
  -- Each of the three things that an operation can do keeps the agreement.
  rcases seen_operate type c op with ⟨_, cache, rows⟩ | ⟨_, rows, cache⟩ | ⟨a, ids, cache, rows⟩
  · rw [cache]
    exact dated.mono rows
  · -- A restart forgets what was known of deleted rows.
    rw [cache, rows]
    exact LatestFirmwareCache.dated_ofAdditions (nodup_seen c)
  · rw [cache]
    exact (dated.add (unused a.id (by simp [ids]))).mono rows

/-- An operation brings in the ids it takes from the generator and no others. -/
theorem within_operate {ids : List String} (within : Within ids c) (op : Operation) :
    Within (ids ++ generated op) (operate type c op) := by
  intro id absent
  rw [List.mem_append, not_or] at absent
  obtain ⟨rowsBefore, entriesBefore⟩ := within id absent.1
  rcases seen_operate type c op with ⟨_, cache, rows⟩ | ⟨_, rows, cache⟩ | ⟨a, added, cache, rows⟩
  · rw [cache]
    exact ⟨fun other member => rowsBefore other (rows other member), entriesBefore⟩
  · rw [cache, rows]
    refine ⟨rowsBefore, fun t newest found => ?_⟩
    obtain ⟨best, stored, _, rfl⟩ := LatestFirmwareCache.mem_of_cache_ofAdditions found
    exact rowsBefore best stored
  · have other : a.id ≠ id := by
      intro same
      exact absent.2 (by simp [added, same])
    -- The new id is in the new row, and perhaps in the entry of its type.
    constructor
    · intro row member
      rcases List.mem_append.mp (rows row member) with old | new
      · exact rowsBefore row old
      · rw [List.mem_singleton.mp new]
        exact other
    · intro t newest found
      rw [cache, LatestFirmwareCache.cache_add] at found
      by_cases own : a.deviceType = t
      · subst own
        rcases LatestFirmwareCache.getElem?_record_self c.latestFirmwareCache.cache a.deviceType
          a.entry with ⟨replaced, _⟩ | ⟨stored, before, _, kept⟩
        · obtain rfl : a.entry = newest := Option.some.inj (replaced.symm.trans found)
          exact other
        · obtain rfl : stored = newest := Option.some.inj (kept.symm.trans found)
          exact entriesBefore _ stored before
      · rw [LatestFirmwareCache.getElem?_record_of_ne _ own] at found
        exact entriesBefore t newest found

/--
In a run whose ids are all new, the entries agree with the rows throughout.

A step may do more than an operation, as long as it keeps the agreement and takes the same ids.
-/
theorem dated_run {ι : Type} {step : Catalogue → ι → Catalogue} (taken : ι → List String)
    (keeps : ∀ c input, Dated c → (∀ id ∈ taken input, c.latestFirmwareCache.Unused (seen c) id) →
      Dated (step c input))
    (brings : ∀ ids c input, Within ids c → Within (ids ++ taken input) (step c input))
    {ids : List String} (dated : Dated c) (within : Within ids c) {inputs : List ι}
    (fresh : (ids ++ inputs.flatMap taken).Nodup) :
    ∀ reached ∈ Transition.states step c inputs, Dated reached := by
  -- The ids in use grow with every step, so they stay quantified over.
  induction inputs generalizing c ids with
  | nil => simpa [Transition.states] using dated
  | cons input rest ih =>
    intro reached member
    rcases List.mem_cons.mp member with rfl | later
    · exact dated
    · rw [List.flatMap_cons, ← List.append_assoc] at fresh
      have new : ∀ id ∈ taken input, c.latestFirmwareCache.Unused (seen c) id := by
        intro id given
        refine within id fun old => ?_
        have apart := (List.nodup_append.mp (List.nodup_append.mp fresh).1).2.2
        exact apart id old id given rfl
      exact ih (keeps c input dated new) (brings ids c input within) fresh reached later

/-- In a run of operations whose ids are all new, the entries agree with the rows throughout. -/
theorem dated_states {ids : List String} (dated : Dated c) (within : Within ids c)
    {ops : List Operation} (fresh : (ids ++ ops.flatMap generated).Nodup) :
    ∀ reached ∈ Transition.states (operate type) c ops, Dated reached :=
  dated_run generated (fun _ _ before unused => dated_operate before unused)
    (fun _ _ op before => within_operate before op) dated within fresh

/-- A restarted service starts in agreement with its table. -/
theorem dated_restart (type : DBType) (c : Catalogue) : Dated (restart type c) := by
  show LatestFirmwareCache.Dated (restart type c).latestFirmwareCache (seen c)
  rw [cache_restart]
  exact LatestFirmwareCache.dated_ofAdditions (nodup_seen c)

/-- A restarted service knows the ids of its rows only. -/
theorem within_restart (type : DBType) (c : Catalogue) :
    Within (c.firmwares.rows.map Firmware.id) (restart type c) := by
  intro id absent
  have rows : ∀ a ∈ seen c, a.id ≠ id := by
    intro a member same
    obtain ⟨row, stored, rfl⟩ := List.mem_map.mp member
    exact absent (List.mem_map.mpr ⟨row, stored, same⟩)
  refine ⟨rows, fun t newest found => ?_⟩
  -- The entries are made from the rows, so they bring in no other ids.
  rw [cache_restart] at found
  obtain ⟨best, stored, _, rfl⟩ := LatestFirmwareCache.mem_of_cache_ofAdditions found
  exact rows best stored

/-- An age is computed from the stored row behind the newest entry of the device type. -/
theorem computeFirmwareAge_eq_some {deviceType revision : String} {details : FirmwareAgeDetails}
    (computed : computeFirmwareAge type c deviceType revision = some details) :
    ∃ newest latest, c.latestFirmwareCache.findLatestFirmware deviceType = some newest ∧
      latest ∈ c.firmwares.rows ∧ latest.id = newest.id ∧
      details = {
        latestId := latest.id
        image := latest.image
        imageDate := latest.imageDate
        revision := latest.revision
        uri := latest.uri
        age :=
          match getFirmwareByRevision type c revision deviceType with
          | some found => latest.imageDate - found.imageDate
          | none => 0
        latest := revision = latest.revision } := by
  -- Every step of the computation has succeeded.
  simp only [computeFirmwareAge, Option.bind_eq_bind, Option.pure_def, Option.bind_eq_some_iff,
    Option.some.injEq] at computed
  obtain ⟨newest, found, latest, fetched, rfl⟩ := computed
  obtain ⟨stored, named⟩ := KeyedTable.lookup_eq_some.mp fetched
  exact ⟨newest, latest, found, stored, named, rfl⟩

/--
In every state of a run the age of a firmware is an exact difference, and its latest id names a row.

The run starts from any table, and its insertions may fail.
-/
theorem age_exact (type : DBType) (c : Catalogue) (ops : List Operation) (fresh : FreshIds c ops) :
    ∀ reached ∈ Transition.states (operate type) (restart type c) ops,
      ∀ (deviceType revision : String) (details : FirmwareAgeDetails),
      computeFirmwareAge type reached deviceType revision = some details →
      (∃ latest ∈ reached.firmwares.rows,
        latest.id = details.latestId ∧ latest.deviceType = deviceType) ∧
      ∀ found, getFirmwareByRevision type reached revision deviceType = some found →
        (Sql.Plain type.dialect revision → Sql.Plain type.dialect deviceType →
          found.revision = revision ∧ found.deviceType = deviceType) ∧
        (found.deviceType = deviceType → found.imageDate ≤ details.imageDate ∧
          details.age.toNat = details.imageDate.toNat - found.imageDate.toNat) := by
  intro reached member deviceType revision details computed
  have dated := dated_states (dated_restart type c) (within_restart type c) fresh reached member
  obtain ⟨newest, latest, cached, stored, named, rfl⟩ := computeFirmwareAge_eq_some computed
  -- The row behind the entry is the one the entry was made from.
  obtain ⟨own, entry⟩ := dated.names deviceType newest cached (addition latest)
    (List.mem_map_of_mem stored) named
  have date : latest.imageDate = newest.timeStamp :=
    congrArg LatestFirmwareCacheEntry.timeStamp entry
  refine ⟨⟨latest, stored, rfl, own⟩, fun found lookup => ⟨?_, ?_⟩⟩
  · intro plainRevision plainType
    rw [getFirmwareByRevision_eq plainRevision plainType] at lookup
    simpa using List.find?_some lookup
  · intro alike
    -- The entry of the type is no earlier than any row of it, so the difference does not wrap.
    obtain ⟨other, recorded, bound⟩ := dated.covers (addition found)
      (List.mem_map_of_mem (getFirmwareByRevision_mem lookup))
    obtain rfl : other = newest := by
      have same : (addition found).deviceType = deviceType := alike
      rw [same] at recorded
      exact Option.some.inj (recorded.symm.trans cached)
    have order : found.imageDate ≤ latest.imageDate := date ▸ bound
    refine ⟨order, ?_⟩
    simp only [lookup]
    exact UInt64.toNat_sub_of_le _ _ order

/-- Two images are added for one access point model, and the service is restarted in between. -/
def twoImages : List Operation :=
  [.add { uuid := "a" } { deviceType := "eap101", revision := "r1", imageDate := 50 }, .restart,
    .add { uuid := "b" } { deviceType := "eap101", revision := "r2", imageDate := 80 }]

/-- The older of two images is exactly thirty seconds older than the newer one. -/
theorem age_twoImages :
    ∃ (details : FirmwareAgeDetails) (found : Firmware),
      computeFirmwareAge .sqlite (twoImages.foldl (operate .sqlite) (restart .sqlite {})) "eap101"
        "r1" = some details ∧ found.imageDate ≤ details.imageDate ∧
      details.age.toNat = details.imageDate.toNat - found.imageDate.toNat := by
  -- Both results are evaluated, and the theorem compares them.
  have computed : computeFirmwareAge .sqlite
      (twoImages.foldl (operate .sqlite) (restart .sqlite {})) "eap101" "r1" =
      some ⟨"b", "", 80, "r2", "", 30, false⟩ := by decide +kernel
  have lookup : getFirmwareByRevision .sqlite
      (twoImages.foldl (operate .sqlite) (restart .sqlite {})) "r1" "eap101" =
      some { id := "a", deviceType := "eap101", revision := "r1", imageDate := 50 } := by
    decide +kernel
  have exact_ := (age_exact .sqlite {} twoImages (by decide +kernel) _
    (Transition.last_mem_states _ twoImages) "eap101" "r1" _ computed).2 _ lookup
  exact ⟨_, _, computed, exact_.2 rfl⟩

end FirmwaresDB

end Fms
