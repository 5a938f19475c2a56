import Fms.Catalogue.FirmwaresLaws

/-! What an addition has already changed when its insertion is refused. -/

namespace Fms

namespace LatestFirmwareCache

/-- A type has a strictly later entry than an addition offers, or that very entry. -/
def Holds (entries : LatestFirmwareCacheMap) (a : Addition) : Prop :=
  ∃ stored, entries[a.deviceType]? = some stored ∧
    (a.timeStamp < stored.timeStamp ∨ stored = a.entry)

/-- A cache to which an addition says nothing new. -/
structure Absorbs (c : LatestFirmwareCache) (a : Addition) : Prop where
  revision : a.revision ∈ c.revisionSet
  deviceType : a.deviceType ∈ c.deviceSet
  newest : Holds c.cache a
  newestRC : isRC a.revision = true → Holds c.rcCache a

/-- Recording leaves the entries alone exactly when the type has a later one or the same one. -/
theorem record_eq_self_iff (entries : LatestFirmwareCacheMap) (a : Addition) :
    record entries a.deviceType a.entry = entries ↔ Holds entries a := by
  unfold record Holds
  cases found : entries[a.deviceType]? with
  | none =>
    -- A first entry of its type is always written.
    constructor
    · intro same
      have written := congrArg (fun entries => entries[a.deviceType]?) same
      simp [found] at written
    · rintro ⟨stored, present, _⟩
      contradiction
  | some stored =>
    by_cases later : a.entry.timeStamp ≥ stored.timeStamp
    · -- The entry is written over the stored one, which shows unless they are equal.
      have notEarlier : ¬ a.timeStamp < stored.timeStamp := UInt64.not_lt.mpr later
      simp only [later, if_true, Option.some.injEq, exists_eq_left', notEarlier, false_or]
      constructor
      · intro same
        have written := congrArg (fun entries => entries[a.deviceType]?) same
        simp only [Std.ExtTreeMap.getElem?_insert_self, found, Option.some.injEq] at written
        exact written.symm
      · rintro rfl
        refine Std.ExtTreeMap.ext_getElem? fun t => ?_
        by_cases own : a.deviceType = t
        · simp [← own, found]
        · simp [Std.ExtTreeMap.getElem?_insert, own]
    · have earlier : a.timeStamp < stored.timeStamp := UInt64.not_le.mp later
      simp [later, earlier]

/-- A set that an insertion leaves as it is has had the value. -/
theorem insert_eq_self_iff (values : Std.ExtTreeSet String) (value : String) :
    values.insert value = values ↔ value ∈ values := by
  constructor
  · intro same
    rw [← same]
    exact Std.ExtTreeSet.mem_insert_self
  · -- The value is a member on both sides, and no other one has come.
    intro member
    refine Std.ExtTreeSet.ext_mem fun other => ?_
    simp only [Std.ExtTreeSet.mem_insert, Std.compare_eq_iff_eq]
    constructor
    · rintro (rfl | before)
      · exact member
      · exact before
    · exact Or.inr

/-- An addition leaves a cache as it is exactly when it says nothing new to it. -/
theorem add_eq_self_iff (c : LatestFirmwareCache) (a : Addition) : c.add a = c ↔ c.Absorbs a := by
  have parts : c.add a =
      { cache := record c.cache a.deviceType a.entry
        rcCache := if isRC a.revision then record c.rcCache a.deviceType a.entry else c.rcCache
        revisionSet := c.revisionSet.insert a.revision
        deviceSet := c.deviceSet.insert a.deviceType } := by
    cases rc : isRC a.revision <;> simp [add, addToCache, rc, Addition.entry]
  rw [parts]
  constructor
  · -- Every part of the cache is as it was.
    intro same
    have revisions := congrArg LatestFirmwareCache.revisionSet same
    have devices := congrArg LatestFirmwareCache.deviceSet same
    have entries := congrArg LatestFirmwareCache.cache same
    have candidates := congrArg LatestFirmwareCache.rcCache same
    refine ⟨(insert_eq_self_iff _ _).mp revisions, (insert_eq_self_iff _ _).mp devices,
      (record_eq_self_iff _ a).mp entries, fun rc => (record_eq_self_iff _ a).mp ?_⟩
    simpa [rc] using candidates
  · rintro ⟨revision, deviceType, newest, newestRC⟩
    have candidates : (if isRC a.revision then record c.rcCache a.deviceType a.entry else c.rcCache) =
        c.rcCache := by
      split
      · rename_i rc
        exact (record_eq_self_iff _ a).mpr (newestRC rc)
      · rfl
    rw [(insert_eq_self_iff _ _).mpr revision, (insert_eq_self_iff _ _).mpr deviceType,
      (record_eq_self_iff _ a).mpr newest, candidates]

end LatestFirmwareCache

namespace FirmwaresDB

/-- The flagged rows that an addition reads, which are the ones whose flag it takes. -/
def losesFlag (type : DBType) (c : Catalogue) (deviceType : String) : List Firmware :=
  (superseded type c deviceType).filter Firmware.latest

/-- Taking the flag from the rows read changes nothing exactly when none of them has it. -/
theorem map_unflag_eq_self_iff (t : FirmwaresTable) {chosen : List Firmware}
    (read : chosen.Sublist t.rows) :
    t.rows.map (unflag chosen) = t.rows ↔ chosen.filter Firmware.latest = [] := by
  rw [List.filter_eq_nil_iff]
  constructor
  · intro same row member
    have stored := read.subset member
    -- The row is kept by the map, so it is among the rows that have been cleared.
    have cleared : unflag chosen row = row :=
      List.map_inj_left.mp (same.trans (List.map_id t.rows).symm) row stored
    have named : row.id ∈ chosen.map Firmware.id := List.mem_map_of_mem member
    intro flagged
    have still := latest_unflag.mp ((congrArg Firmware.latest cleared).trans flagged)
    exact still.2 named
  · intro none_
    refine (List.map_congr_left fun row stored => ?_).trans (List.map_id t.rows)
    unfold unflag
    split
    · rename_i named
      -- The id names one stored row, which has been read and has no flag to lose.
      obtain ⟨other, member, same⟩ := List.mem_map.mp named
      obtain rfl : other = row := KeyedTable.eq_of_key (read.subset member) stored same
      have unflagged : other.latest = false := by simpa using none_ other member
      rw [← unflagged]
      rfl
    · rfl

/-- For a type that needs no escaping, a flag is lost exactly when some row of the type has one. -/
theorem losesFlag_eq_nil_iff {c : Catalogue} {type : DBType} {deviceType : String}
    (plain : Sql.Plain type.dialect deviceType) :
    losesFlag type c deviceType = [] ↔
      ∀ row ∈ c.firmwares.rows, row.deviceType = deviceType → row.latest = false := by
  -- The first row read is the first flagged row of the type.
  have first : (superseded type c deviceType).head? = c.firmwares.rows.find? fun row =>
      decide (row.deviceType = deviceType) && decide (row.latest = true) := by
    rw [← Orm.head_getRecords (latestClause_denotes plain.spells) c.firmwares 199, superseded]
    cases Orm.getRecords type c.firmwares 0 200 (latestClause deviceType) <;> rfl
  unfold losesFlag
  cases read : superseded type c deviceType with
  | nil =>
    rw [read] at first
    have none_ := List.find?_eq_none.mp first.symm
    refine ⟨fun _ row stored own => ?_, fun _ => rfl⟩
    simpa [own] using none_ row stored
  | cons flagged rest =>
    rw [read] at first
    have condition := List.find?_some first.symm
    simp only [Bool.and_eq_true, decide_eq_true_eq] at condition
    constructor
    · intro empty
      simp [condition.2] at empty
    · intro none_
      have unflagged := none_ flagged (List.mem_of_find?_eq_some first.symm) condition.1
      rw [condition.2] at unflagged
      contradiction

/-- An addition fails exactly when its insertion is not executed or its id is taken. -/
theorem addFirmware_fails_iff (type : DBType) (ctx : AddContext) (c : Catalogue) (F : Firmware) :
    (addFirmware type ctx c F).1 = false ↔
      ctx.executed = false ∨ ∃ row ∈ c.firmwares.rows, row.id = ctx.uuid := by
  have rewritten := rows_foldl_clearLatest c.firmwares (superseded_sublist type c F.deviceType)
  rw [addFirmware_eq]
  cases run : ctx.executed with
  | false => exact iff_of_true rfl (Or.inl rfl)
  | true =>
    rw [or_iff_right nofun]
    -- Losing flags changes no id, so an id is free in the rewritten table when it is in the table before.
    constructor
    · intro failed
      by_contra free
      have fresh : ∀ row ∈ ((superseded type c F.deviceType).foldl clearLatest c.firmwares).rows,
          firmwaresSchema.key row ≠ firmwaresSchema.key (stored ctx F) := by
        intro row member same
        rw [rewritten] at member
        obtain ⟨before, present, rfl⟩ := List.mem_map.mp member
        exact free ⟨before, present, (id_unflag _ before).symm.trans same⟩
      obtain ⟨grown, created, _⟩ := Orm.createRecord_of_fresh _ fresh
      rw [created] at failed
      contradiction
    · rintro ⟨row, present, same⟩
      rcases Orm.createRecord_cases true
        ((superseded type c F.deviceType).foldl clearLatest c.firmwares) (stored ctx F) with
        ⟨_, _, free⟩ | refused
      · have written : unflag (superseded type c F.deviceType) row ∈
            ((superseded type c F.deviceType).foldl clearLatest c.firmwares).rows := by
          rw [rewritten]
          exact List.mem_map_of_mem present
        exact absurd ((id_unflag _ row).trans same) (free _ written)
      · rw [refused]

/-- A refused addition leaves the catalogue as it is exactly when it takes no flag and says nothing new. -/
theorem addFirmware_unchanged_iff (type : DBType) (ctx : AddContext) (c : Catalogue) (F : Firmware)
    (failed : (addFirmware type ctx c F).1 = false) :
    (addFirmware type ctx c F).2.2 = c ↔
      losesFlag type c F.deviceType = [] ∧ c.latestFirmwareCache.Absorbs (addition (stored ctx F)) := by
  obtain ⟨cache, outcome⟩ := addFirmware_cases type ctx c F
  have rows : (addFirmware type ctx c F).2.2.firmwares.rows =
      c.firmwares.rows.map (unflag (superseded type c F.deviceType)) := by
    rcases outcome with ⟨created, _⟩ | ⟨_, rows⟩
    · rw [failed] at created
      contradiction
    · exact rows
  -- The flags are those of the table, and everything else is in the cache.
  have flags := map_unflag_eq_self_iff c.firmwares (superseded_sublist type c F.deviceType)
  rw [losesFlag, ← flags, ← LatestFirmwareCache.add_eq_self_iff, ← rows, ← cache]
  constructor
  · intro same
    exact ⟨congrArg (fun c => c.firmwares.rows) same, congrArg Catalogue.latestFirmwareCache same⟩
  · rintro ⟨sameRows, sameCache⟩
    have sameTable := KeyedTable.ext sameRows
    generalize (addFirmware type ctx c F).2.2 = after at sameTable sameCache
    cases after
    cases sameTable
    cases sameCache
    rfl

/--
A refused addition leaves the cache as it is if and only if the cache knew all that the record says.

For a plain device type it leaves everything as it is if and only if, besides, no stored row of the type has the
flag.
-/
theorem failedAddition_unchanged_iff (type : DBType) (ctx : AddContext) (c : Catalogue) (F : Firmware)
    (failed : (addFirmware type ctx c F).1 = false) :
    ((addFirmware type ctx c F).2.2.latestFirmwareCache = c.latestFirmwareCache ↔
        c.latestFirmwareCache.Absorbs (addition (stored ctx F))) ∧
      (Sql.Plain type.dialect F.deviceType → ((addFirmware type ctx c F).2.2 = c ↔
        (∀ row ∈ c.firmwares.rows, row.deviceType = F.deviceType → row.latest = false) ∧
          c.latestFirmwareCache.Absorbs (addition (stored ctx F)))) := by
  refine ⟨?_, fun plain => ?_⟩
  · -- The cache is filled before anything can fail.
    rw [(addFirmware_cases type ctx c F).1]
    exact LatestFirmwareCache.add_eq_self_iff _ _
  · rw [addFirmware_unchanged_iff type ctx c F failed, losesFlag_eq_nil_iff plain]

/-- A catalogue whose newest firmware is no longer stored, and still cached. -/
def withoutNewest : Catalogue where
  firmwares := KeyedTable.single { id := "a", deviceType := "eap101", revision := "r1", imageDate := 50 }
  latestFirmwareCache := .ofAdditions [⟨"eap101", "r2", "b", 80⟩, ⟨"eap101", "r1", "a", 50⟩]

/-- An older firmware of a known revision is refused without a trace when no row has the flag. -/
theorem failedAddition_unchanged_older :
    (addFirmware .sqlite ⟨"c", false⟩ withoutNewest
      { deviceType := "eap101", revision := "r1", imageDate := 60 }).2.2 = withoutNewest := by
  -- The cache already names a later date of the type, and the table has no flag to lose.
  refine ((failedAddition_unchanged_iff .sqlite ⟨"c", false⟩ withoutNewest _ (by decide +kernel)).2
    (by decide)).mpr ⟨by decide +kernel, ?_⟩
  exact ⟨by decide +kernel, by decide +kernel, ⟨⟨"b", 80, "r2"⟩, by decide +kernel, .inl (by decide)⟩,
    fun rc => absurd rc (by decide)⟩

/-- A catalogue with the latest firmware of one device type. -/
def oneLatest : Catalogue where
  firmwares := KeyedTable.single
    { id := "a", deviceType := "eap101", revision := "r1", imageDate := 50, latest := true }
  latestFirmwareCache := .ofAdditions [⟨"eap101", "r1", "a", 50⟩]

/-- After a refused addition the stored firmware has lost its flag, and the cache names no row. -/
theorem failedAddition_changes :
    ¬ ∀ (type : DBType) (ctx : AddContext) (c : Catalogue) (F : Firmware),
      (addFirmware type ctx c F).1 = false →
      (addFirmware type ctx c F).2.2.firmwares = c.firmwares ∧
        (addFirmware type ctx c F).2.2.latestFirmwareCache = c.latestFirmwareCache := by
  intro unchanged
  -- The insertion of a newer firmware is not executed.
  have same := unchanged .sqlite ⟨"b", false⟩ oneLatest
    { deviceType := "eap101", revision := "r2", imageDate := 80 } (by decide +kernel)
  have flags := congrArg (fun t => t.rows.map Firmware.latest) same.1
  exact absurd flags (by decide +kernel)

end FirmwaresDB

end Fms
