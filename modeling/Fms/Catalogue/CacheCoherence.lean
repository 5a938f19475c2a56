import Fms.Catalogue.FirmwaresLaws
import Fms.Relation.Run

/-! Runs of the operations on the catalogue, and whether its cache stays what a restart would build. -/

namespace Fms.FirmwaresDB

/-- The body of a request to change a firmware, as far as the handler uses it. -/
structure FirmwareEdit where
  /-- Whether the body decodes as a firmware. -/
  wellFormed : Bool := true
  description : Option String := none
  /-- The texts of the notes to append. -/
  notes : Option (List String) := none
  deriving DecidableEq, Repr

/-- `RESTAPI_firmwareHandler::DoPut`, at a time and for the user with an e-mail address. -/
def doPut (now : UInt64) (email : String) (c : Catalogue) (uuid : String) (edit : FirmwareEdit) :
    Catalogue :=
  if uuid = "" then c
  else
    match getFirmware c uuid with
    | none => c
    | some F =>
      if !edit.wellFormed then c
      else
        let added := (edit.notes.getD []).map fun note => ⟨now, email, note⟩
        let F := { F with
          description := edit.description.getD F.description
          notes := F.notes ++ added }
        (updateFirmware c uuid F).2

/-- `RESTAPI_firmwareHandler::DoDelete`. -/
def doDelete (c : Catalogue) (uuid : String) : Catalogue :=
  if uuid = "" then c else (deleteFirmware c uuid).2

/-- Everything that changes the catalogue of a running service, and starting it anew. -/
inductive Operation where
  | add (ctx : AddContext) (F : Firmware)
  | put (now : UInt64) (email uuid : String) (edit : FirmwareEdit)
  | delete (uuid : String)
  | removeOld (now maxAge : UInt64)
  | prune (bucket : S3BucketContent)
  | restart

/-- A new process has an empty cache and populates it from the table. -/
def restart (type : DBType) (c : Catalogue) : Catalogue :=
  populateLatestFirmwareCache type { c with latestFirmwareCache := {} }

/-- The catalogue after an operation, whose statements the database executes. -/
def operate (type : DBType) (c : Catalogue) : Operation → Catalogue
  | .add ctx F => (addFirmware type ctx c F).2.2
  | .put now email uuid edit => doPut now email c uuid edit
  | .delete uuid => doDelete c uuid
  | .removeOld now maxAge => removeOldFirmware type now maxAge c
  | .prune bucket =>
    match removeOldDBEntriesNotInManifest true bucket c with
    | some (_, pruned) => pruned
    | none => c
  | .restart => restart type c

/-- The operation's insertion, if it has one, succeeds. -/
def Inserts (type : DBType) (c : Catalogue) : Operation → Prop
  | .add ctx F => (addFirmware type ctx c F).1 = true
  | _ => True

/-- The rows an operation deletes. -/
def deletes : Operation → Firmware → Bool
  | .delete uuid, row => decide (uuid ≠ "") && decide (row.id = uuid)
  | .removeOld now maxAge, row => decide (¬ Recent (now - maxAge) row.imageDate)
  | .prune bucket, row => !bucket.contains row.release
  | .add .., _ | .put .., _ | .restart, _ => false

instance (type : DBType) (c : Catalogue) : ∀ op : Operation, Decidable (Inserts type c op)
  | .add ctx F => inferInstanceAs (Decidable ((addFirmware type ctx c F).1 = true))
  | .put .. | .delete _ | .removeOld .. | .prune _ | .restart => isTrue trivial

/-- The cache is what a restart would build from the table. -/
def Coherent (type : DBType) (c : Catalogue) : Prop :=
  c.latestFirmwareCache = (restart type c).latestFirmwareCache

/-- No two rows of a device type have the same image date. -/
def DistinctDates (rows : List Firmware) : Prop :=
  ∀ left ∈ rows, ∀ right ∈ rows,
    left.deviceType = right.deviceType → left.imageDate = right.imageDate → left = right

instance (rows : List Firmware) : Decidable (DistinctDates rows) :=
  inferInstanceAs (Decidable (∀ left ∈ rows, ∀ right ∈ rows, _))

/-- A row that stays and has a later image of the same device type. -/
def Superseding (row other : Firmware) : Prop :=
  other.deviceType = row.deviceType ∧ row.imageDate < other.imageDate

/--
Each row an operation deletes is superseded by a row that stays, and its revision stays in use.

A release candidate has to be superseded by a release candidate too.
-/
def Harmless (c : Catalogue) (op : Operation) : Prop :=
  ∀ row ∈ c.firmwares.rows, deletes op row = true →
    (∃ other ∈ c.firmwares.rows, deletes op other = false ∧ Superseding row other) ∧
    (LatestFirmwareCache.isRC row.revision = true → ∃ other ∈ c.firmwares.rows,
      deletes op other = false ∧ Superseding row other ∧
        LatestFirmwareCache.isRC other.revision = true) ∧
    ∃ other ∈ c.firmwares.rows, deletes op other = false ∧ other.revision = row.revision

instance (c : Catalogue) (op : Operation) : Decidable (Harmless c op) :=
  inferInstanceAs (Decidable (∀ row ∈ c.firmwares.rows, _ → (∃ other ∈ c.firmwares.rows, _ ∧ _ ∧ _) ∧
    (_ → ∃ other ∈ c.firmwares.rows, _ ∧ (_ ∧ _) ∧ _) ∧ ∃ other ∈ c.firmwares.rows, _ ∧ _))

/-- The cache a list of rows populates from the empty one. -/
def cacheOf (rows : List Firmware) : LatestFirmwareCache :=
  LatestFirmwareCache.ofAdditions (rows.map addition)

/-- A restart populates the cache from the rows alone. -/
theorem coherent_iff {type : DBType} {c : Catalogue} :
    Coherent type c ↔ c.latestFirmwareCache = cacheOf c.firmwares.rows := by
  rw [Coherent, restart, cache_populateLatestFirmwareCache, cacheOf, LatestFirmwareCache.ofAdditions]

/-- The rank of a row among the rows of its type. -/
def rank (row : Firmware) : Nat := row.imageDate.toNat

/-- The entry a row offers to the cache. -/
def entry (row : Firmware) : LatestFirmwareCacheEntry := (addition row).entry

/-- The rows of a device type compete for its entry. -/
def competes (t : String) (row : Firmware) : Bool := row.deviceType = t

/-- The release candidates of a device type compete for its release candidate entry. -/
def competesRC (t : String) (row : Firmware) : Bool :=
  competes t row && LatestFirmwareCache.isRC row.revision

/-- The populated cache holds the newest row of each type. -/
theorem cache_cacheOf (rows : List Firmware) (t : String) :
    (cacheOf rows).cache[t]? = (Newest.newest rank (rows.filter (competes t))).map entry := by
  -- The additions made from the rows compete as the rows do.
  have ranked := Newest.newest_map LatestFirmwareCache.Addition.rank addition
    (rows.filter (competes t))
  rw [cacheOf, LatestFirmwareCache.getElem?_cache, List.filter_map]
  exact (congrArg _ ranked).trans (Option.map_map ..)

/-- The populated release candidate cache holds the newest release candidate of each type. -/
theorem rcCache_cacheOf (rows : List Firmware) (t : String) :
    (cacheOf rows).rcCache[t]? = (Newest.newest rank (rows.filter (competesRC t))).map entry := by
  -- The same competition among the release candidates.
  have ranked := Newest.newest_map LatestFirmwareCache.Addition.rank addition
    (rows.filter (competesRC t))
  rw [cacheOf, LatestFirmwareCache.getElem?_rcCache, List.filter_map]
  exact (congrArg _ ranked).trans (Option.map_map ..)

/-- The populated revision set holds the revisions of the rows. -/
theorem mem_revisionSet_cacheOf (rows : List Firmware) (r : String) :
    r ∈ (cacheOf rows).revisionSet ↔ ∃ row ∈ rows, row.revision = r := by
  simp [cacheOf, LatestFirmwareCache.mem_revisionSet, addition]

/-- The populated device set holds the device types of the rows. -/
theorem mem_deviceSet_cacheOf (rows : List Firmware) (t : String) :
    t ∈ (cacheOf rows).deviceSet ↔ ∃ row ∈ rows, row.deviceType = t := by
  simp [cacheOf, LatestFirmwareCache.mem_deviceSet, addition]

/-- The newest competitor stays the same exactly when the deleted competitors are outranked. -/
theorem newest_entry_eq_iff {t : FirmwaresTable} (keep pick : Firmware → Bool)
    (once : ∀ left ∈ t.rows, ∀ right ∈ t.rows, pick left = true → pick right = true →
      rank left = rank right → left = right) :
    (Newest.newest rank ((t.rows.filter keep).filter pick)).map entry =
        (Newest.newest rank (t.rows.filter pick)).map entry ↔
      ∀ row ∈ t.rows, pick row = true → keep row = false →
        ∃ other ∈ t.rows, keep other = true ∧ pick other = true ∧ rank row < rank other := by
  have distinct : ∀ left ∈ t.rows.filter pick, ∀ right ∈ t.rows.filter pick,
      rank left = rank right → left = right := by
    intro left inLeft right inRight
    obtain ⟨storedLeft, pickedLeft⟩ := List.mem_filter.mp inLeft
    obtain ⟨storedRight, pickedRight⟩ := List.mem_filter.mp inRight
    exact once left storedLeft right storedRight pickedLeft pickedRight
  -- The id in an entry tells the stored rows apart, so equal entries are equal rows.
  have entries : (Newest.newest rank ((t.rows.filter pick).filter keep)).map entry =
        (Newest.newest rank (t.rows.filter pick)).map entry ↔
      Newest.newest rank ((t.rows.filter pick).filter keep) =
        Newest.newest rank (t.rows.filter pick) := by
    constructor
    · intro same
      cases left : Newest.newest rank ((t.rows.filter pick).filter keep) with
      | none =>
        rw [left, Option.map_none] at same
        exact (Option.map_eq_none_iff.mp same.symm).symm
      | some best =>
        rw [left, Option.map_some] at same
        obtain ⟨other, right, equal⟩ := Option.map_eq_some_iff.mp same.symm
        have inLeft := (Newest.isNewest_of_newest left).mem
        have inRight := (Newest.isNewest_of_newest right).mem
        simp only [List.mem_filter] at inLeft inRight
        have ids : other.id = best.id := congrArg LatestFirmwareCacheEntry.id equal
        rw [right, KeyedTable.eq_of_key inRight.1 inLeft.1.1 ids]
    · intro same
      rw [same]
  -- What remains is the general fact about dropping elements, read for the stored rows.
  rw [List.filter_comm, entries, Newest.newest_filter_eq_iff distinct]
  constructor
  · intro outranked row stored picked dropped
    obtain ⟨other, member, kept, above⟩ :=
      outranked row (List.mem_filter.mpr ⟨stored, picked⟩) dropped
    obtain ⟨present, chosen⟩ := List.mem_filter.mp member
    exact ⟨other, present, kept, chosen, above⟩
  · intro outranked row member dropped
    obtain ⟨stored, picked⟩ := List.mem_filter.mp member
    obtain ⟨other, present, kept, chosen, above⟩ := outranked row stored picked dropped
    exact ⟨other, List.mem_filter.mpr ⟨present, chosen⟩, kept, above⟩

/-- Rows of one type with one rank are one row when the dates within a type are distinct. -/
theorem eq_of_rank {rows : List Firmware} (distinct : DistinctDates rows) {left right : Firmware}
    (inLeft : left ∈ rows) (inRight : right ∈ rows) (type : left.deviceType = right.deviceType)
    (same : rank left = rank right) : left = right :=
  distinct left inLeft right inRight type (UInt64.toNat_inj.mp same)

/-- No value is lost when each deleted row leaves a row with the same value behind. -/
theorem exists_filter_iff {rows : List Firmware} {op : Operation} {value : Firmware → String}
    (left_ : ∀ row ∈ rows, deletes op row = true →
      ∃ other ∈ rows, deletes op other = false ∧ value other = value row) (wanted : String) :
    (∃ row ∈ rows.filter fun row => !deletes op row, value row = wanted) ↔
      ∃ row ∈ rows, value row = wanted := by
  constructor
  · rintro ⟨row, member, named⟩
    exact ⟨row, (List.mem_filter.mp member).1, named⟩
  · rintro ⟨row, stored, named⟩
    cases deleted : deletes op row with
    | false => exact ⟨row, List.mem_filter.mpr ⟨stored, by simp [deleted]⟩, named⟩
    | true =>
      obtain ⟨other, present, kept, alike⟩ := left_ row stored deleted
      exact ⟨other, List.mem_filter.mpr ⟨present, by simp [kept]⟩, alike.trans named⟩

/-- Deleting rows leaves the populated cache alone exactly when the deletion is harmless. -/
theorem cacheOf_filter_eq_iff {c : Catalogue} {op : Operation}
    (distinct : DistinctDates c.firmwares.rows) :
    cacheOf (c.firmwares.rows.filter fun row => !deletes op row) = cacheOf c.firmwares.rows ↔
      Harmless c op := by
  -- Each of the two maps is settled by its own competition.
  have newest (t : String) := newest_entry_eq_iff (t := c.firmwares)
    (fun row => !deletes op row) (competes t) (by
      intro left inLeft right inRight pickedLeft pickedRight
      simp only [competes, decide_eq_true_eq] at pickedLeft pickedRight
      exact eq_of_rank distinct inLeft inRight (pickedLeft.trans pickedRight.symm))
  have newestRC (t : String) := newest_entry_eq_iff (t := c.firmwares)
    (fun row => !deletes op row) (competesRC t) (by
      intro left inLeft right inRight pickedLeft pickedRight
      simp only [competesRC, competes, Bool.and_eq_true, decide_eq_true_eq] at pickedLeft pickedRight
      exact eq_of_rank distinct inLeft inRight (pickedLeft.1.trans pickedRight.1.symm))
  simp only [competes, competesRC, Bool.and_eq_true, decide_eq_true_eq, Bool.not_eq_true',
    Bool.not_eq_false'] at newest newestRC
  constructor
  · intro same row stored deleted
    have sameCache := congrArg (fun cache => cache.cache[row.deviceType]?) same
    have sameRC := congrArg (fun cache => cache.rcCache[row.deviceType]?) same
    simp only [cache_cacheOf, rcCache_cacheOf] at sameCache sameRC
    refine ⟨?_, ?_, ?_⟩
    · obtain ⟨other, present, kept, type, above⟩ :=
        (newest row.deviceType).mp sameCache row stored rfl deleted
      exact ⟨other, present, kept, type, UInt64.lt_iff_toNat_lt.mpr above⟩
    · intro candidate
      obtain ⟨other, present, kept, ⟨type, rc⟩, above⟩ :=
        (newestRC row.deviceType).mp sameRC row stored ⟨rfl, candidate⟩ deleted
      exact ⟨other, present, kept, ⟨type, UInt64.lt_iff_toNat_lt.mpr above⟩, rc⟩
    · have before : row.revision ∈ (cacheOf c.firmwares.rows).revisionSet :=
        (mem_revisionSet_cacheOf _ _).mpr ⟨row, stored, rfl⟩
      rw [← same, mem_revisionSet_cacheOf] at before
      obtain ⟨other, member, revision⟩ := before
      obtain ⟨present, kept⟩ := List.mem_filter.mp member
      exact ⟨other, present, by simpa using kept, revision⟩
  · intro harmless
    -- A cache is its two maps and its two sets.
    refine LatestFirmwareCache.ext_get ?_ ?_ ?_ ?_
    · intro t
      rw [cache_cacheOf, cache_cacheOf]
      refine (newest t).mpr fun row stored type deleted => ?_
      obtain ⟨⟨other, present, kept, alike, above⟩, _, _⟩ := harmless row stored deleted
      exact ⟨other, present, kept, alike.trans type, UInt64.lt_iff_toNat_lt.mp above⟩
    · intro t
      rw [rcCache_cacheOf, rcCache_cacheOf]
      refine (newestRC t).mpr fun row stored picked deleted => ?_
      obtain ⟨_, candidate, _⟩ := harmless row stored deleted
      obtain ⟨other, present, kept, ⟨alike, above⟩, rc⟩ := candidate picked.2
      exact ⟨other, present, kept, ⟨alike.trans picked.1, rc⟩, UInt64.lt_iff_toNat_lt.mp above⟩
    · intro r
      rw [mem_revisionSet_cacheOf, mem_revisionSet_cacheOf]
      exact exists_filter_iff (fun row stored deleted => (harmless row stored deleted).2.2) r
    · intro t
      rw [mem_deviceSet_cacheOf, mem_deviceSet_cacheOf]
      refine exists_filter_iff (fun row stored deleted => ?_) t
      obtain ⟨⟨other, present, kept, alike, _⟩, _, _⟩ := harmless row stored deleted
      exact ⟨other, present, kept, alike⟩

variable {type : DBType} {c : Catalogue}

/-- An operation that keeps the rows the cache sees, and the cache, deletes nothing. -/
theorem harmless_of_no_deletion {op : Operation} (none_ : ∀ row, deletes op row = false) :
    Harmless c op := by
  -- There is no deleted row to account for.
  intro row _ deleted
  rw [none_ row] at deleted
  contradiction

/-- A change of the description and the notes keeps everything the cache sees. -/
theorem additions_doPut (now : UInt64) (email : String) (c : Catalogue) (uuid : String)
    (edit : FirmwareEdit) :
    (doPut now email c uuid edit).latestFirmwareCache = c.latestFirmwareCache ∧
      (doPut now email c uuid edit).firmwares.rows.map addition =
        c.firmwares.rows.map addition := by
  unfold doPut
  split
  · exact ⟨rfl, rfl⟩
  · cases found : getFirmware c uuid with
    | none => exact ⟨rfl, rfl⟩
    | some F =>
      obtain ⟨stored, named⟩ := KeyedTable.lookup_eq_some.mp found
      simp only [firmwaresSchema_key] at named
      subst named
      simp only
      split
      · exact ⟨rfl, rfl⟩
      · -- The new row has the id, the type, the revision and the date of the old one.
        generalize edited : ({ F with
          description := edit.description.getD F.description
          notes := F.notes ++ (edit.notes.getD []).map fun note => ⟨now, email, note⟩ } : Firmware)
          = G
        have same : G.id = F.id := by rw [← edited]
        have seen : addition G = addition F := by rw [← edited]; rfl
        rw [← same, updateFirmware_id]
        refine ⟨rfl, ?_⟩
        simp only [KeyedTable.replace, List.map_map]
        refine List.map_congr_left fun row present => ?_
        by_cases alike : row.id = G.id
        · have one : row = F := KeyedTable.eq_of_key present stored (alike.trans same)
          simp [one, same, seen]
        · simp [alike]

/-- The operations that delete keep the cache and the other rows. -/
theorem operate_deletion (type : DBType) (c : Catalogue) {op : Operation}
    (deletion : (∃ uuid, op = .delete uuid) ∨ (∃ now maxAge, op = .removeOld now maxAge) ∨
      ∃ bucket, op = .prune bucket) :
    (operate type c op).latestFirmwareCache = c.latestFirmwareCache ∧
      (operate type c op).firmwares.rows = c.firmwares.rows.filter fun row => !deletes op row := by
  -- Each of the three deletes statement by statement, and none touches the cache.
  rcases deletion with ⟨uuid, rfl⟩ | ⟨now, maxAge, rfl⟩ | ⟨bucket, rfl⟩
  · by_cases empty : uuid = ""
    · simp [operate, doDelete, deletes, empty]
    · simp only [operate, doDelete, if_neg empty, rows_deleteFirmware]
      exact ⟨rfl, List.filter_congr fun row _ => by simp [deletes, empty]⟩
  · simp only [operate, rows_removeOldFirmware]
    refine ⟨rfl, List.filter_congr fun row _ => ?_⟩
    simp only [deletes, ← decide_not, not_not]
  · cases done : removeOldDBEntriesNotInManifest true bucket c with
    | none => simp [removeOldDBEntriesNotInManifest] at done
    | some result =>
      simp only [operate, done, deletes, Bool.not_not]
      exact ⟨cache_removeOldDBEntriesNotInManifest done, rows_removeOldDBEntriesNotInManifest done⟩

/-- From a coherent catalogue, an operation leads to one exactly when it deletes nothing harmful. -/
theorem coherent_operate (coherent : Coherent type c) (distinct : DistinctDates c.firmwares.rows)
    {op : Operation} (inserts : Inserts type c op) :
    Coherent type (operate type c op) ↔ Harmless c op := by
  rw [coherent_iff] at coherent
  -- A deletion keeps the cache, so the populated cache must not notice it either.
  have deletion (kept : (operate type c op).latestFirmwareCache = c.latestFirmwareCache ∧
      (operate type c op).firmwares.rows = c.firmwares.rows.filter fun row => !deletes op row) :
      Coherent type (operate type c op) ↔ Harmless c op := by
    rw [coherent_iff, kept.1, kept.2, coherent, eq_comm]
    exact cacheOf_filter_eq_iff distinct
  cases op with
  | add ctx F =>
    refine iff_of_true ?_ (harmless_of_no_deletion fun _ => rfl)
    obtain ⟨cache, added | refused⟩ := addFirmware_cases type ctx c F
    · have rows : (operate type c (.add ctx F)).firmwares.rows = _ := added.2.1
      have seen : addition ∘ unflag (superseded type c F.deviceType) = addition :=
        funext fun row => addition_unflag _ row
      rw [coherent_iff, rows, operate, cache, coherent, cacheOf, cacheOf, List.map_append,
        List.map_map, seen, List.map_singleton, LatestFirmwareCache.ofAdditions_append_singleton]
    · exact absurd (inserts.symm.trans refused.1) (by simp)
  | put now email uuid edit =>
    refine iff_of_true ?_ (harmless_of_no_deletion fun _ => rfl)
    obtain ⟨cache, rows⟩ := additions_doPut now email c uuid edit
    rw [coherent_iff, operate, cache, coherent, cacheOf, cacheOf, rows]
  | delete uuid => exact deletion (operate_deletion type c (Or.inl ⟨uuid, rfl⟩))
  | removeOld now maxAge =>
    exact deletion (operate_deletion type c (Or.inr (Or.inl ⟨now, maxAge, rfl⟩)))
  | prune bucket => exact deletion (operate_deletion type c (Or.inr (Or.inr ⟨bucket, rfl⟩)))
  | restart =>
    refine iff_of_true ?_ (harmless_of_no_deletion fun _ => rfl)
    rfl

/--
Along a run the cache stays what a restart would build exactly when every deletion is harmless.

The run starts with an empty table, every insertion succeeds, and no state holds two rows of one
device type with one image date.
-/
theorem coherent_iff_harmless (type : DBType) (ops : List Operation)
    (insert : Transition.Along (operate type) (Inserts type) {} ops)
    (distinct : ∀ c ∈ Transition.states (operate type) {} ops, DistinctDates c.firmwares.rows) :
    (∀ c ∈ Transition.states (operate type) {} ops, Coherent type c) ↔
      Transition.Along (operate type) Harmless {} ops := by
  have assumptions := Transition.along_and.mpr ⟨insert, Transition.along_of_states distinct⟩
  have start : Coherent type {} := rfl
  refine Transition.property_iff_along (Coherent type) (fun _ => True)
    (fun _ _ _ _ _ _ => trivial) ?_ trivial start assumptions
  intro c op _ coherent assumed
  exact coherent_operate coherent assumed.2 assumed.1

/-- The addition of an image of one access point model. -/
def addEap101 (uuid : String) (imageDate : UInt64) : Operation :=
  .add { uuid } { deviceType := "edgecore_eap101", revision := "TIP / TIP-v2", imageDate }

/-- Two images of one revision are added, and the older one is deleted. -/
def oldDeletion : List Operation := [addEap101 "a" 50, addEap101 "b" 100, .delete "a"]

/-- Deleting an older image of a revision that stays in use leaves the cache coherent. -/
theorem coherent_after_old_deletion : Coherent .sqlite (oldDeletion.foldl (operate .sqlite) {}) :=
  (coherent_iff_harmless .sqlite oldDeletion (by decide +kernel) (by decide +kernel)).mpr
    (by decide +kernel) _ (Transition.last_mem_states _ oldDeletion)

/-- Deleting the only image of a device type leaves its entry in the cache. -/
theorem stale_entry_after_deletion :
    Transition.Along (operate .sqlite) (Inserts .sqlite) {} [addEap101 "a" 50, .delete "a"] ∧
      (∀ c ∈ Transition.states (operate .sqlite) {} [addEap101 "a" 50, .delete "a"],
        DistinctDates c.firmwares.rows) ∧
      ¬ Coherent .sqlite ([addEap101 "a" 50, .delete "a"].foldl (operate .sqlite) {}) := by
  -- A restart would not find the type in the table.
  refine ⟨by decide +kernel, by decide +kernel, fun coherent => ?_⟩
  have entries := congrArg (fun cache => cache.findLatestFirmware "edgecore_eap101") coherent
  revert entries
  decide +kernel

end Fms.FirmwaresDB
