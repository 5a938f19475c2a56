import Fms.Catalogue.CacheCoherence
import Fms.Devices.Reports
import Fms.Upgrade.Sending

/-! The service as a whole: what the updater sends is the newest stored image of the type a device has reported. -/

namespace Fms

/-- What happens to the service, one thing at a time. -/
inductive UpgradeEvent where
  | catalogue (op : FirmwaresDB.Operation)
  /-- `NewConnectionHandler` takes a message from its queue, with the key it came with. -/
  | connection (ctx : DeviceContext) (serialNumber message : String)
  /-- One round of the loop in `AutoUpdater::onTimer`. -/
  | round (now : UInt64) (services : List Exchange)
  /-- `AutoUpdater::reinitialize`. -/
  | reset

namespace Service

/-- A service that has just started over the tables it finds; only the newest firmwares are cached. -/
def started (type : DBType) (catalogue : Catalogue) (tables : DeviceTables) (autoUpdaterEnabled : Bool) : Service where
  catalogue := FirmwaresDB.restart type catalogue
  tables
  autoUpdater := { autoUpdaterEnabled }

/-- What a round of the updater reads. -/
def turn (s : Service) (now : UInt64) (services : List Exchange) : Turn := ⟨now, services, s.catalogue⟩

/-- The service after an event. -/
def advance (poco : Poco) (type : DBType) (s : Service) : UpgradeEvent → Service
  | .catalogue op => { s with catalogue := FirmwaresDB.operate type s.catalogue op }
  | .connection ctx serialNumber message => NewConnectionHandler.handle poco type ctx s (serialNumber, message)
  | .round now services => { s with autoUpdater := s.autoUpdater.round poco (s.turn now services) }
  | .reset => { s with autoUpdater := s.autoUpdater.reset }

/-- An addition generates an id that no row and no cached entry has. -/
def FreshId (s : Service) : UpgradeEvent → Prop
  | .catalogue (.add ctx _) => (∀ row ∈ s.catalogue.firmwares.rows, row.id ≠ ctx.uuid) ∧
    ∀ (t : String) (entry : LatestFirmwareCacheEntry),
      s.catalogue.latestFirmwareCache.cache[t]? = some entry → entry.id ≠ ctx.uuid
  | _ => True

/-- The device type and the revision of a report, which a disconnection has not. -/
def firmwareOf : Report → Option (String × String)
  | .connection _ deviceType revision _ | .ping _ deviceType revision _ => some (deviceType, revision)
  | .disconnection .. => none

section Runs

variable (poco : Poco) (type : DBType) (start : Service)

/-- A device has reported its type, and a revision that was not the latest one then. -/
def Asked (run : List UpgradeEvent) (serialNumber deviceType : String) : Prop :=
  ∃ front ctx message back report revision,
    run = front ++ .connection ctx serialNumber message :: back ∧
      NewConnectionHandler.readMessage poco message = some report ∧
      firmwareOf report = some (deviceType, revision) ∧
      (front.foldl (advance poco type) start).catalogue.latestFirmwareCache.isLatest deviceType revision = false

/-- A command is deserved: it names the newest stored image of a type that its device has reported. -/
structure Deserved (run : List UpgradeEvent) (serialNumber : String) (fwDetails : Firmware) : Prop where
  stored : fwDetails ∈ (run.foldl (advance poco type) start).catalogue.firmwares.rows
  newest : ∀ row ∈ (run.foldl (advance poco type) start).catalogue.firmwares.rows,
    row.deviceType = fwDetails.deviceType → row.imageDate ≤ fwDetails.imageDate
  asked : Asked poco type start run serialNumber fwDetails.deviceType

/-- A message for a device reports a revision that is not the latest one of its type. -/
def reportsOutdated (s : Service) (serialNumber : String) : UpgradeEvent → Bool
  | .connection _ key message => decide (key = serialNumber) &&
    ((NewConnectionHandler.readMessage poco message).bind firmwareOf).any fun reported =>
      !s.catalogue.latestFirmwareCache.isLatest reported.1 reported.2
  | .catalogue _ | .round .. | .reset => false

/-- How many messages of a run have reported a revision of a device that was not the latest one then. -/
def outdatedReports (s : Service) (serialNumber : String) : List UpgradeEvent → Nat
  | [] => 0
  | event :: rest =>
    (reportsOutdated poco s serialNumber event).toNat + outdatedReports (advance poco type s event) serialNumber rest

end Runs

end Service

namespace FirmwaresDB

open LatestFirmwareCache (Addition)

/--
The cache leads some rows: each has an entry of its type that is at least as new, and a row an entry points to is of
the type and of the date of the entry.
-/
structure Leads (cache : LatestFirmwareCacheMap) (rows : List Addition) : Prop where
  ahead : ∀ row ∈ rows, ∃ entry, cache[row.deviceType]? = some entry ∧ row.timeStamp ≤ entry.timeStamp
  points : ∀ (t : String) entry, cache[t]? = some entry → ∀ row ∈ rows, row.id = entry.id →
    row.deviceType = t ∧ row.timeStamp = entry.timeStamp

/-- The cache leads fewer rows as well. -/
theorem Leads.mono {cache : LatestFirmwareCacheMap} {rows fewer : List Addition} (leads : Leads cache rows)
    (subset : fewer ⊆ rows) : Leads cache fewer :=
  ⟨fun row member => leads.ahead row (subset member),
    fun t entry found row member => leads.points t entry found row (subset member)⟩

/-- Recording an entry writes it over an older one of its type, and keeps a newer one. -/
theorem record_cases (cache : LatestFirmwareCacheMap) (deviceType : String) (entry : LatestFirmwareCacheEntry) :
    (∃ stored, cache[deviceType]? = some stored ∧ entry.timeStamp ≤ stored.timeStamp ∧
        LatestFirmwareCache.record cache deviceType entry = cache) ∨
      (∀ stored, cache[deviceType]? = some stored → stored.timeStamp ≤ entry.timeStamp) ∧
        LatestFirmwareCache.record cache deviceType entry = cache.insert deviceType entry := by
  -- By whether there is an entry, and how old it is.
  unfold LatestFirmwareCache.record
  cases found : cache[deviceType]? with
  | none => exact Or.inr ⟨by simp, rfl⟩
  | some stored =>
    by_cases later : entry.timeStamp ≥ stored.timeStamp
    · refine Or.inr ⟨fun other same => ?_, by simp [later]⟩
      cases same
      exact later
    · exact Or.inl ⟨stored, rfl, UInt64.le_of_lt (UInt64.not_le.mp later), by simp [later]⟩

/-- Adding a row under a fresh id, stored or not, leaves the cache ahead. -/
theorem Leads.record {cache : LatestFirmwareCacheMap} {rows : List Addition} (leads : Leads cache rows) {a : Addition}
    (freshRows : ∀ row ∈ rows, row.id ≠ a.id)
    (freshEntries : ∀ (t : String) entry, cache[t]? = some entry → entry.id ≠ a.id) :
    Leads (LatestFirmwareCache.record cache a.deviceType a.entry) (rows ++ [a]) := by
  rcases record_cases cache a.deviceType a.entry with ⟨stored, found, older, same⟩ | ⟨newer, written⟩
  · -- The entry of the type stays, and no entry points to the new row.
    rw [same]
    refine ⟨fun row member => ?_, fun t entry known row member pointed => ?_⟩
    · rcases List.mem_append.mp member with old | new
      · exact leads.ahead row old
      · rw [List.mem_singleton.mp new]
        exact ⟨stored, found, older⟩
    · rcases List.mem_append.mp member with old | new
      · exact leads.points t entry known row old pointed
      · rw [List.mem_singleton.mp new] at pointed
        exact absurd pointed.symm (freshEntries t entry known)
  · -- The new entry points to the new row, and is ahead of all rows of its type.
    rw [written]
    have seen (t : String) : (cache.insert a.deviceType a.entry)[t]? =
        if a.deviceType = t then some a.entry else cache[t]? := by
      simp [Std.ExtTreeMap.getElem?_insert]
    refine ⟨fun row member => ?_, fun t entry known row member pointed => ?_⟩
    · rcases List.mem_append.mp member with old | new
      · obtain ⟨entry, found, ahead⟩ := leads.ahead row old
        rw [seen]
        by_cases same : a.deviceType = row.deviceType
        · rw [if_pos same]
          exact ⟨a.entry, rfl, UInt64.le_trans ahead (newer entry (same ▸ found))⟩
        · rw [if_neg same]
          exact ⟨entry, found, ahead⟩
      · rw [List.mem_singleton.mp new, seen, if_pos rfl]
        exact ⟨a.entry, rfl, UInt64.le_refl _⟩
    · rw [seen] at known
      split at known
      · rename_i same
        cases known
        rcases List.mem_append.mp member with old | new
        · exact absurd pointed (freshRows row old)
        · rw [List.mem_singleton.mp new]
          exact ⟨same, rfl⟩
      · rcases List.mem_append.mp member with old | new
        · exact leads.points t entry known row old pointed
        · rw [List.mem_singleton.mp new] at pointed
          exact absurd pointed.symm (freshEntries t entry known)

/-- The cache of a catalogue leads its rows. -/
def Led (c : Catalogue) : Prop :=
  Leads c.latestFirmwareCache.cache (c.firmwares.rows.map addition)

/-- The cache a restart builds leads the rows it is built from. -/
theorem led_restart (type : DBType) (c : Catalogue) : Led (restart type c) := by
  have built : (restart type c).latestFirmwareCache = cacheOf c.firmwares.rows :=
    coherent_iff.mp (show Coherent type (restart type c) from rfl)
  have rows : (restart type c).firmwares = c.firmwares := rfl
  refine ⟨fun row member => ?_, fun t entry found row member pointed => ?_⟩
  · rw [rows] at member
    obtain ⟨F, stored, rfl⟩ := List.mem_map.mp member
    have competing : F ∈ c.firmwares.rows.filter (competes F.deviceType) :=
      List.mem_filter.mpr ⟨stored, by simp [competes]⟩
    rw [built]
    -- The type of a row has a newest row.
    have seen := cache_cacheOf c.firmwares.rows F.deviceType
    cases best : Newest.newest rank (c.firmwares.rows.filter (competes F.deviceType)) with
    | none =>
      rw [Newest.newest_eq_none.mp best] at competing
      cases competing
    | some newest =>
      rw [best] at seen
      exact ⟨_, seen, UInt64.le_iff_toNat_le.mpr ((Newest.isNewest_of_newest best).le competing)⟩
  · rw [built, cache_cacheOf, Option.map_eq_some_iff] at found
    obtain ⟨newest, best, rfl⟩ := found
    obtain ⟨stored, competing⟩ := List.mem_filter.mp (Newest.isNewest_of_newest best).mem
    rw [rows] at member
    obtain ⟨F, present, rfl⟩ := List.mem_map.mp member
    -- The primary key makes the row the newest one itself.
    have same : F = newest := KeyedTable.eq_of_key present stored pointed
    subst same
    have type : F.deviceType = t := by simpa [competes] using competing
    exact ⟨type, rfl⟩

/-- An operation leaves the cache ahead, where what it adds has a fresh id. -/
theorem Led.operate {c : Catalogue} (led : Led c) (type : DBType) (op : Operation)
    (fresh : ∀ ctx F, op = .add ctx F → (∀ row ∈ c.firmwares.rows, row.id ≠ ctx.uuid) ∧
      ∀ (t : String) entry, c.latestFirmwareCache.cache[t]? = some entry → entry.id ≠ ctx.uuid) :
    Led (operate type c op) := by
  have deletion (deletes_ : (∃ uuid, op = .delete uuid) ∨ (∃ now maxAge, op = .removeOld now maxAge) ∨
      ∃ bucket, op = .prune bucket) : Led (FirmwaresDB.operate type c op) := by
    obtain ⟨cache, rows⟩ := operate_deletion type c deletes_
    unfold Led
    rw [cache, rows]
    exact led.mono (List.map_subset addition List.filter_sublist.subset)
  cases op with
  | add ctx F =>
    obtain ⟨freshRows, freshEntries⟩ := fresh ctx F rfl
    have kept : (c.firmwares.rows.map (unflag (superseded type c F.deviceType))).map addition =
        c.firmwares.rows.map addition := by
      rw [List.map_map]
      exact List.map_congr_left fun row _ => addition_unflag _ row
    have written : (c.latestFirmwareCache.add (addition (stored ctx F))).cache =
        LatestFirmwareCache.record c.latestFirmwareCache.cache F.deviceType (addition (stored ctx F)).entry := by
      unfold LatestFirmwareCache.add LatestFirmwareCache.addToCache
      split <;> rfl
    have leads := Leads.record led (a := addition (stored ctx F))
      (by
        intro row member
        obtain ⟨old, present, rfl⟩ := List.mem_map.mp member
        exact freshRows old present)
      freshEntries
    -- Whether the row is stored or not, the cache leads it.
    obtain ⟨cache, ⟨_, rows, _⟩ | ⟨_, rows⟩⟩ := addFirmware_cases type ctx c F
    · unfold Led FirmwaresDB.operate
      rw [cache, rows, written, List.map_append, kept]
      exact leads
    · unfold Led FirmwaresDB.operate
      rw [cache, rows, written, kept]
      exact leads.mono (List.subset_append_left _ _)
  | put now email uuid edit =>
    obtain ⟨cache, rows⟩ := additions_doPut now email c uuid edit
    unfold Led FirmwaresDB.operate
    rw [cache, rows]
    exact led
  | delete uuid => exact deletion (Or.inl ⟨uuid, rfl⟩)
  | removeOld now maxAge => exact deletion (Or.inr (Or.inl ⟨now, maxAge, rfl⟩))
  | prune bucket => exact deletion (Or.inr (Or.inr ⟨bucket, rfl⟩))
  | restart => exact led_restart type c

/-- Where the cache leads, the latest firmware of a type is stored, of that type, and the newest one of it. -/
theorem Led.latestFirmware {c : Catalogue} (led : Led c) {deviceType : String} {F : Firmware}
    (latest : AutoUpdater.latestFirmware c deviceType = some F) :
    F ∈ c.firmwares.rows ∧ F.deviceType = deviceType ∧
      ∀ row ∈ c.firmwares.rows, row.deviceType = F.deviceType → row.imageDate ≤ F.imageDate := by
  unfold AutoUpdater.latestFirmware LatestFirmwareCache.findLatestFirmware at latest
  rw [Option.bind_eq_bind, Option.bind_eq_some_iff] at latest
  obtain ⟨entry, cached, found⟩ := latest
  obtain ⟨stored, named⟩ := KeyedTable.lookup_eq_some.mp found
  obtain ⟨sameType, sameDate⟩ := led.points deviceType entry cached (addition F)
    (List.mem_map_of_mem stored) named
  refine ⟨stored, sameType, fun row member alike => ?_⟩
  -- The entry of the type is ahead of every row of it.
  obtain ⟨other, found, ahead⟩ := led.ahead (addition row) (List.mem_map_of_mem member)
  have one : other = entry := by
    have types : (addition row).deviceType = deviceType := alike.trans sameType
    rw [types, cached] at found
    exact (Option.some.inj found).symm
  rw [one, ← sameDate] at ahead
  exact ahead

end FirmwaresDB

namespace Service

open AutoUpdater

variable {poco : Poco} {type : DBType} {start : Service}

/-- A report leaves the catalogue alone, and queues its device at most once, for a type it names. -/
theorem handle_message (ctx : DeviceContext) (s : Service) (serialNumber message : String) :
    (NewConnectionHandler.handle poco type ctx s (serialNumber, message)).catalogue = s.catalogue ∧
      ((NewConnectionHandler.handle poco type ctx s (serialNumber, message)).autoUpdater = s.autoUpdater ∨
        ∃ report deviceType revision, NewConnectionHandler.readMessage poco message = some report ∧
          firmwareOf report = some (deviceType, revision) ∧
          s.catalogue.latestFirmwareCache.isLatest deviceType revision = false ∧
          (NewConnectionHandler.handle poco type ctx s (serialNumber, message)).autoUpdater =
            s.autoUpdater.toBeUpgraded serialNumber deviceType) := by
  -- By the kind of the report, and then by whether it names the latest revision.
  unfold NewConnectionHandler.handle
  cases read : NewConnectionHandler.readMessage poco message with
  | none => exact ⟨rfl, Or.inl rfl⟩
  | some report =>
    cases report with
    | disconnection sNum endPoint => exact ⟨rfl, Or.inl rfl⟩
    | connection serial deviceType revision endPoint =>
      simp only [NewConnectionHandler.applyReport]
      cases latest : s.catalogue.latestFirmwareCache.isLatest deviceType revision with
      | true =>
        constructor
        · unfold NewConnectionHandler.queueUnlessLatest
          split <;> split <;> rfl
        · left
          unfold NewConnectionHandler.queueUnlessLatest
          split <;> split <;> simp_all
      | false =>
        constructor
        · unfold NewConnectionHandler.queueUnlessLatest
          split <;> split <;> rfl
        · right
          refine ⟨_, deviceType, revision, rfl, rfl, latest, ?_⟩
          unfold NewConnectionHandler.queueUnlessLatest
          split <;> split <;> simp_all
    | ping serial deviceType revision endPoint =>
      simp only [NewConnectionHandler.applyReport, NewConnectionHandler.queueUnlessLatest]
      cases latest : s.catalogue.latestFirmwareCache.isLatest deviceType revision with
      | true => exact ⟨rfl, Or.inl rfl⟩
      | false => exact ⟨rfl, Or.inr ⟨_, deviceType, revision, rfl, rfl, latest, rfl⟩⟩

/-- What a device has reported stays reported. -/
theorem Asked.snoc {run : List UpgradeEvent} {serialNumber deviceType : String}
    (asked : Asked poco type start run serialNumber deviceType) (event : UpgradeEvent) :
    Asked poco type start (run ++ [event]) serialNumber deviceType := by
  obtain ⟨front, ctx, message, back, report, revision, rfl, rest⟩ := asked
  exact ⟨front, ctx, message, back ++ [event], report, revision, by simp, rest⟩

/-- Every command was deserved when its round sent it. -/
def AllDeserved (poco : Poco) (type : DBType) (start : Service) (run : List UpgradeEvent)
    (actions : List UpdaterAction) : Prop :=
  ∀ serialNumber fwDetails, (serialNumber, fwDetails) ∈ commands actions →
    ∃ front now services back, run = front ++ .round now services :: back ∧
      Deserved poco type start front serialNumber fwDetails

/-- What a run keeps: the cache leads, the queue holds what has been asked for, and no more is sent than that. -/
structure Kept (poco : Poco) (type : DBType) (start : Service) (run : List UpgradeEvent) (s : Service) : Prop where
  led : FirmwaresDB.Led s.catalogue
  queued : ∀ entry ∈ s.autoUpdater.queue, Asked poco type start run entry.1 entry.2
  deserved : AllDeserved poco type start run s.autoUpdater.actions
  counted : ∀ serialNumber, commandsTo serialNumber s.autoUpdater.actions +
    waiting serialNumber s.autoUpdater.queue ≤ outdatedReports poco type start serialNumber run

/-- What was deserved stays so. -/
theorem AllDeserved.snoc {run : List UpgradeEvent} {actions : List UpdaterAction}
    (deserved : AllDeserved poco type start run actions) (event : UpgradeEvent) :
    AllDeserved poco type start (run ++ [event]) actions := by
  intro serialNumber fwDetails member
  obtain ⟨front, now, services, back, rfl, rest⟩ := deserved serialNumber fwDetails member
  exact ⟨front, now, services, back ++ [event], by simp, rest⟩

/-- One more event adds to the reports of a device where it is one of them. -/
theorem outdatedReports_snoc (start : Service) (serialNumber : String) (run : List UpgradeEvent)
    (event : UpgradeEvent) :
    outdatedReports poco type start serialNumber (run ++ [event]) =
      outdatedReports poco type start serialNumber run +
        (reportsOutdated poco (run.foldl (Service.advance poco type) start) serialNumber event).toNat := by
  induction run generalizing start with
  | nil => exact Nat.add_comm _ 0
  | cons first rest ih => rw [List.cons_append, outdatedReports, ih, outdatedReports, Nat.add_assoc]; rfl

variable {run : List UpgradeEvent} {s : Service}

/-- More events leave as many reports as there were. -/
theorem Kept.grown (kept : Kept poco type start run s) (event : UpgradeEvent) (serialNumber : String) :
    commandsTo serialNumber s.autoUpdater.actions + waiting serialNumber s.autoUpdater.queue ≤
      outdatedReports poco type start serialNumber (run ++ [event]) := by
  rw [outdatedReports_snoc]
  exact (kept.counted serialNumber).trans (Nat.le_add_right _ _)

/-- An event that leaves the updater alone keeps what a run keeps, as long as the cache leads. -/
theorem Kept.quiet (kept : Kept poco type start run s) (event : UpgradeEvent) {after : Service}
    (led : FirmwaresDB.Led after.catalogue) (same : after.autoUpdater = s.autoUpdater) :
    Kept poco type start (run ++ [event]) after := by
  refine ⟨led, fun entry member => ?_, ?_, fun serialNumber => ?_⟩
  · rw [same] at member
    exact (kept.queued entry member).snoc event
  · rw [same]
    exact kept.deserved.snoc event
  · rw [same]
    exact kept.grown event serialNumber

/-- A report of an outdated firmware is one more report, and may be one more entry of the queue. -/
theorem Kept.reported (kept : Kept poco type start run s) (reached : s = run.foldl (Service.advance poco type) start)
    {ctx : DeviceContext} {serialNumber message : String} {report : Report} {deviceType revision : String}
    (read : NewConnectionHandler.readMessage poco message = some report)
    (names : firmwareOf report = some (deviceType, revision))
    (old : s.catalogue.latestFirmwareCache.isLatest deviceType revision = false) {after : Service}
    (catalogue : after.catalogue = s.catalogue)
    (queued : after.autoUpdater = s.autoUpdater.toBeUpgraded serialNumber deviceType) :
    Kept poco type start (run ++ [.connection ctx serialNumber message]) after := by
  rw [toBeUpgraded_eq] at queued
  -- The queue grows by the device, if the updater is enabled.
  generalize added : (if s.autoUpdater.autoUpdaterEnabled then some (serialNumber, deviceType) else none).toList =
    entries at queued
  have only : ∀ entry ∈ entries, entry = (serialNumber, deviceType) := by
    intro entry member
    rw [← added] at member
    split at member
    · exact List.mem_singleton.mp member
    · exact absurd member List.not_mem_nil
  refine ⟨(congrArg FirmwaresDB.Led catalogue).mpr kept.led, fun entry member => ?_, ?_, fun other => ?_⟩
  · rw [queued] at member
    rcases List.mem_append.mp member with earlier | new
    · exact (kept.queued entry earlier).snoc _
    · rw [only entry new]
      exact ⟨run, ctx, message, [], report, revision, rfl, read, names, reached ▸ old⟩
  · rw [queued]
    exact kept.deserved.snoc _
  · -- A device that waits once more has been reported once more.
    have one : waiting other entries ≤
        (reportsOutdated poco s other (.connection ctx serialNumber message)).toNat := by
      rw [← added]
      by_cases same : serialNumber = other
      · have told : reportsOutdated poco s other (.connection ctx serialNumber message) = true := by
          simp [reportsOutdated, same, read, names, old]
        rw [told]
        split <;> simp [waiting, same]
      · split <;> simp [waiting, same]
    have before := kept.counted other
    rw [queued, outdatedReports_snoc, ← reached]
    have sum : waiting other (s.autoUpdater.queue ++ entries) =
        waiting other s.autoUpdater.queue + waiting other entries := by
      simp only [waiting, List.map_append, List.count_append]
    simp only [sum]
    omega

/-- A round sends the newest image of a type that its device has asked for, and takes the device from the queue. -/
theorem Kept.round (kept : Kept poco type start run s) (reached : s = run.foldl (Service.advance poco type) start)
    (now : UInt64) (services : List Exchange) :
    Kept poco type start (run ++ [.round now services]) (s.advance poco type (.round now services)) := by
  obtain ⟨queue, sent⟩ := commands_round poco s.autoUpdater (s.turn now services)
  refine ⟨kept.led, fun entry member => ?_, fun serialNumber fwDetails member => ?_, fun serialNumber => ?_⟩
  · rw [Service.advance] at member
    simp only [queue] at member
    exact (kept.queued entry (List.mem_of_mem_tail member)).snoc _
  · rw [Service.advance] at member
    simp only [sent] at member
    rcases List.mem_append.mp member with new | earlier
    · -- The round sends the latest firmware of a type its device has reported.
      obtain ⟨deviceType, first, latest⟩ := sends_entry (Option.mem_toList.mp new)
      obtain ⟨stored, sameType, newest⟩ := kept.led.latestFirmware latest
      have asked := kept.queued _ (List.mem_of_head? first)
      subst sameType
      exact ⟨run, now, services, [], rfl, ⟨reached ▸ stored, reached ▸ newest, asked⟩⟩
    · exact kept.deserved.snoc _ serialNumber fwDetails earlier
  · exact (commandsTo_round poco s.autoUpdater (s.turn now services) serialNumber).trans (kept.grown _ serialNumber)

/-- Every event with fresh ids keeps what a run keeps. -/
theorem Kept.step (kept : Kept poco type start run s) (reached : s = run.foldl (Service.advance poco type) start)
    (event : UpgradeEvent) (fresh : FreshId s event) :
    Kept poco type start (run ++ [event]) (s.advance poco type event) := by
  cases event with
  | catalogue op =>
    refine kept.quiet (.catalogue op) (kept.led.operate type op fun ctx F same => ?_) rfl
    subst same
    exact fresh
  | reset =>
    refine ⟨kept.led, fun entry member => absurd member List.not_mem_nil, kept.deserved.snoc _,
      fun serialNumber => ?_⟩
    -- What waited is gone, and what was sent has been sent.
    have before := kept.grown .reset serialNumber
    show commandsTo serialNumber s.autoUpdater.actions + 0 ≤ _
    omega
  | connection ctx serialNumber message =>
    obtain ⟨catalogue, same | ⟨report, deviceType, revision, read, names, old, queued⟩⟩ :=
      @handle_message poco type ctx s serialNumber message
    · exact kept.quiet _ ((congrArg FirmwaresDB.Led catalogue).mpr kept.led) same
    · exact kept.reported reached read names old catalogue queued
  | round now services => exact kept.round reached now services

/--
The updater sends each device the newest stored image of the type it has reported.

This is so in every run over every catalogue the service may find, while additions get fresh ids; and a device is not
sent more commands than messages have reported a firmware of it that was not the latest one.
-/
theorem newest_image_sent (poco : Poco) (type : DBType) (catalogue : Catalogue) (tables : DeviceTables)
    (enabled : Bool) (run : List UpgradeEvent)
    (fresh : Transition.Along (Service.advance poco type) FreshId (started type catalogue tables enabled) run) :
    AllDeserved poco type (started type catalogue tables enabled) run
        (run.foldl (Service.advance poco type) (started type catalogue tables enabled)).autoUpdater.actions ∧
      ∀ serialNumber, commandsTo serialNumber
          (run.foldl (Service.advance poco type) (started type catalogue tables enabled)).autoUpdater.actions ≤
        outdatedReports poco type (started type catalogue tables enabled) serialNumber run := by
  generalize origin : started type catalogue tables enabled = start at fresh ⊢
  have first : Kept poco type start [] start := by
    subst origin
    exact ⟨FirmwaresDB.led_restart type catalogue, fun entry member => absurd member List.not_mem_nil,
      fun serialNumber fwDetails member => absurd member List.not_mem_nil, fun serialNumber => Nat.le_refl _⟩
  -- The relation carries where the run has led to, and that the ids so far were fresh.
  have related := Transition.foldl_related (Service.advance poco type)
    (fun before s => s = before.foldl (Service.advance poco type) start ∧
      (Transition.Along (Service.advance poco type) FreshId start before → Kept poco type start before s))
    ⟨rfl, fun _ => first⟩
    (fun before s event both => by
      obtain ⟨reached, kept⟩ := both
      refine ⟨by rw [List.foldl_append, reached]; rfl, fun along => ?_⟩
      obtain ⟨earlier, last⟩ := Transition.along_append.mp along
      exact (kept earlier).step reached event (reached ▸ last.1)) run
  have kept := related.2 fresh
  exact ⟨kept.deserved, fun serialNumber => (Nat.le_add_right _ _).trans (kept.counted serialNumber)⟩

/-- The message of an access point that has connected. -/
def connectedText : String := "\x7b\"payload\":\x7b\"capabilities\":\x7b\"compatible\":\"eap101\"\x7d\x7d\x7d"

/-- The answer of an owner who allows upgrades. -/
def permissionText : String := "\x7b\"firmwareUpgrade\":\"yes\"\x7d"

/-- A parser that knows both. -/
def upgradePoco : Poco := .onDocuments [
  (connectedText, .object [("payload", .object [("capabilities", .object [("compatible", .string "eap101")]),
    ("serial", .string "903cb3000001"), ("firmware", .string "r1")])]),
  (permissionText, .object [("firmwareUpgrade", .string "yes")])]

/-- An image is added, an access point of its type connects with an older one, and the timer comes. -/
def oneUpgrade : List UpgradeEvent := [
  .catalogue (.add { uuid := "f1" } { deviceType := "eap101", revision := "r2", imageDate := 20 }),
  .connection { uuid := "h1" } "903cb3000001" connectedText,
  .round 1700000000 [.answered httpOk permissionText]]

/-- The access point is sent the image, which it deserves. -/
theorem newest_image_sent_to_one : ∃ front now services back,
    oneUpgrade = front ++ .round now services :: back ∧
      Deserved upgradePoco .sqlite (started .sqlite {} {} true) front "903cb3000001"
        { id := "f1", deviceType := "eap101", revision := "r2", imageDate := 20, latest := true } := by
  have fresh : Transition.Along (Service.advance upgradePoco .sqlite) FreshId (started .sqlite {} {} true)
      oneUpgrade := by
    refine ⟨⟨fun row member => absurd member List.not_mem_nil, fun t entry found => ?_⟩, trivial, trivial, trivial⟩
    -- There is no row to build an entry from.
    obtain ⟨_, points⟩ := FirmwaresDB.led_restart .sqlite {}
    have none_ : (FirmwaresDB.cacheOf []).cache[t]? = none := FirmwaresDB.cache_cacheOf [] t
    have built : (FirmwaresDB.restart .sqlite {}).latestFirmwareCache = FirmwaresDB.cacheOf [] :=
      FirmwaresDB.coherent_iff.mp rfl
    have seen : (FirmwaresDB.restart .sqlite {}).latestFirmwareCache.cache[t]? = some entry := found
    rw [built, none_] at seen
    cases seen
  exact (newest_image_sent upgradePoco .sqlite {} {} true oneUpgrade fresh).1 "903cb3000001" _ (by decide +kernel)

end Service

end Fms
