import Fms.Devices.OutdatedReports
import Fms.Upgrade.Refusal

/-! Upgrade commands for what a device already runs, when something overtakes its queue entry. -/

namespace Fms.Service

/-- A device has reported a revision last, according to its row or to its cached entry. -/
def Runs (s : Service) (serialNumber revision : String) : Prop :=
  (∃ row ∈ s.tables.devices.lookup serialNumber, row.revision = revision) ∨
    ∃ E ∈ s.deviceCache[serialNumber]?, E.revision = revision

/-- No command that an event adds to the actions is for what its device runs at that moment. -/
def SendsOther (poco : Poco) (parse : String → Option Nlohmann.Json) (type : DBType) (s : Service)
    (event : ServiceEvent) : Prop :=
  ∀ added, (step poco parse type s event).autoUpdater.actions = added ++ s.autoUpdater.actions →
    ∀ serialNumber fwDetails, .sent serialNumber fwDetails ∈ added →
      ¬ Runs s serialNumber fwDetails.revision

/--
In a round the device at the front of the queue does not run the newest firmware of its type.

If it does, the round must not send: its question throws, or the answer is a refusal.
-/
def StillOutdated (poco : Poco) (s : Service) (updater : AutoUpdater) (turn : Turn) : Prop :=
  ∀ entry ∈ updater.queue.head?, ∀ fwDetails ∈ AutoUpdater.latestFirmware turn.catalogue entry.2,
    Runs s entry.1 fwDetails.revision →
      ∀ firmwareUpgrade ∈ AutoUpdater.optionOf poco turn updater entry.1, firmwareUpgrade = "no"

/-- An event all of whose rounds find the devices they come to still outdated. -/
def RoundsOutdated (poco : Poco) (s : Service) : ServiceEvent → Prop
  | .onTimer turns =>
    Transition.Along (AutoUpdater.round poco) (StillOutdated poco s) s.autoUpdater turns
  | .report .. | .command _ | .reset | .deleteEntry _ | .catalogue _ => True

/-- The row behind each newest entry has the revision of the entry. -/
def Backed (c : Catalogue) : Prop :=
  ∀ deviceType, ∀ newest ∈ c.latestFirmwareCache.findLatestFirmware deviceType,
    ∀ F ∈ FirmwaresDB.getFirmware c newest.id, F.revision = newest.revision

/-- No device in the queue runs the newest firmware of the type it waits for. -/
def Fresh (s : Service) : Prop :=
  ∀ entry ∈ s.autoUpdater.queue, ∀ fwDetails ∈ AutoUpdater.latestFirmware s.catalogue entry.2,
    ¬ Runs s entry.1 fwDetails.revision

/--
An event that overtakes no entry of the queue.

A report comes under its own serial number, and a device that waits does not report the newest
firmware; no change of the catalogue makes the newest firmware what a waiting device runs; and the
rounds of a pass read the catalogue of the service.
-/
def Undisturbed (poco : Poco) (s : Service) : ServiceEvent → Prop
  | .report _ connection => ∀ report ∈ NewConnectionHandler.readMessage poco connection.2,
    ∀ running ∈ report.running, report.serial = connection.1 ∧
      ∀ entry ∈ s.autoUpdater.queue, entry.1 = connection.1 →
        ∀ fwDetails ∈ AutoUpdater.latestFirmware s.catalogue entry.2,
          fwDetails.revision ≠ running.2
  | .catalogue c => Backed c ∧ Fresh { s with catalogue := c }
  | .onTimer turns => ∀ turn ∈ turns, turn.catalogue = s.catalogue
  | .command _ | .reset | .deleteEntry _ => True

variable {poco : Poco} {parse : String → Option Nlohmann.Json} {type : DBType} {s : Service}

/-- A round sends nothing for what its device runs exactly when the device is still outdated. -/
theorem stillOutdated_iff {updater : AutoUpdater} {turn : Turn} :
    (∀ command ∈ AutoUpdater.sends poco updater turn, ¬ Runs s command.1 command.2.revision) ↔
      StillOutdated poco s updater turn := by
  -- A round without an entry, an option or a firmware sends nothing.
  unfold StillOutdated AutoUpdater.sends AutoUpdater.upgradeSends
  cases updater.queue.head? with
  | none => simp
  | some entry =>
    cases option : AutoUpdater.optionOf poco turn updater entry.1 with
    | none => simp [option]
    | some firmwareUpgrade =>
      cases newest : AutoUpdater.latestFirmware turn.catalogue entry.2 with
      | none => simp [newest]
      | some fwDetails =>
        -- With an option and a firmware the round sends unless the option is a refusal.
        by_cases refused : firmwareUpgrade = "no"
        · simp [option, refused]
        · simp [option, newest, refused]

/-- The commands a pass adds are those that its rounds send. -/
theorem sendsOther_onTimer (turns : List Turn) :
    SendsOther poco parse type s (.onTimer turns) ↔ RoundsOutdated poco s (.onTimer turns) := by
  have rounds : RoundsOutdated poco s (.onTimer turns) ↔
      ∀ command ∈ Transition.outputs (AutoUpdater.sends poco) (AutoUpdater.round poco)
        s.autoUpdater turns, ¬ Runs s command.1 command.2.revision := by
    rw [Transition.forall_outputs_iff]
    simp only [stillOutdated_iff, RoundsOutdated]
  rw [rounds]
  have sent := AutoUpdater.commands_onTimer poco turns s.autoUpdater
  -- What a pass adds has the commands of its rounds among it.
  have among (added : List UpdaterAction)
      (grown : (s.autoUpdater.onTimer poco turns).actions = added ++ s.autoUpdater.actions)
      (serialNumber : String) (fwDetails : Firmware) :
      .sent serialNumber fwDetails ∈ added ↔ (serialNumber, fwDetails) ∈
        Transition.outputs (AutoUpdater.sends poco) (AutoUpdater.round poco) s.autoUpdater turns := by
    rw [grown, AutoUpdater.commands_append] at sent
    rw [← AutoUpdater.mem_commands, List.append_cancel_right sent, List.mem_reverse]
  constructor
  · rintro other ⟨serialNumber, fwDetails⟩ member
    obtain ⟨added, grown⟩ := AutoUpdater.actions_onTimer poco turns s.autoUpdater
    exact other added grown serialNumber fwDetails
      ((among added grown serialNumber fwDetails).mpr member)
  · intro other added grown serialNumber fwDetails member
    exact other (serialNumber, fwDetails) ((among added grown serialNumber fwDetails).mp member)

/-- Only a pass can send anything. -/
theorem sendsOther_iff (event : ServiceEvent) :
    SendsOther poco parse type s event ↔ RoundsOutdated poco s event := by
  -- The other events leave the actions as they are, or put a reset in front of them.
  have quiet (between : event.Between) : SendsOther poco parse type s event := by
    intro added grown serialNumber fwDetails member
    rw [autoUpdater_step between] at grown
    rw [List.self_eq_append_left.mp grown] at member
    exact absurd member List.not_mem_nil
  cases event with
  | onTimer turns => exact sendsOther_onTimer turns
  | report ctx connection => exact iff_of_true (quiet trivial) trivial
  | command S => exact iff_of_true (quiet trivial) trivial
  | deleteEntry id => exact iff_of_true (quiet trivial) trivial
  | catalogue c => exact iff_of_true (quiet trivial) trivial
  | reset =>
    refine iff_of_true ?_ trivial
    intro added grown serialNumber fwDetails member
    have one : [.reset] ++ s.autoUpdater.actions = added ++ s.autoUpdater.actions := grown
    rw [← List.append_cancel_right one] at member
    exact absurd member (by simp)

/-- The queue stays fresh when it loses entries and no device runs a revision it has not run before. -/
theorem Fresh.mono {before after : Service} (fresh : Fresh before)
    (catalogue : after.catalogue = before.catalogue)
    (queue : ∀ entry ∈ after.autoUpdater.queue, entry ∈ before.autoUpdater.queue)
    (runs : ∀ serialNumber revision, Runs after serialNumber revision →
      Runs before serialNumber revision) : Fresh after := by
  -- Every entry that is left was fresh before.
  intro entry member fwDetails newest running
  rw [catalogue] at newest
  exact fresh entry (queue entry member) fwDetails newest (runs _ _ running)

/-- Rows that are left after a deletion were there before. -/
theorem runs_of_subset {before after : Service}
    (rows : ∀ row ∈ after.tables.devices.rows, row ∈ before.tables.devices.rows)
    (cache : after.deviceCache = before.deviceCache) (serialNumber revision : String)
    (running : Runs after serialNumber revision) : Runs before serialNumber revision := by
  -- The row is found under the same key, because the keys are distinct.
  rcases running with ⟨row, found, reported⟩ | ⟨E, cached, reported⟩
  · obtain ⟨stored, named⟩ := KeyedTable.lookup_eq_some.mp found
    exact Or.inl ⟨row, KeyedTable.lookup_eq_some.mpr ⟨rows row stored, named⟩, reported⟩
  · exact Or.inr ⟨E, cache ▸ cached, reported⟩

/-- An age is computed exactly when the newest entry of the type has a row. -/
theorem isSome_computeFirmwareAge (type : DBType) (c : Catalogue) (deviceType revision : String) :
    (FirmwaresDB.computeFirmwareAge type c deviceType revision).isSome =
      (AutoUpdater.latestFirmware c deviceType).isSome := by
  -- Both read the newest entry of the type and then its row.
  unfold FirmwaresDB.computeFirmwareAge AutoUpdater.latestFirmware
  cases c.latestFirmwareCache.findLatestFirmware deviceType with
  | none => rfl
  | some newest => cases row : FirmwaresDB.getFirmware c newest.id <;> simp [row]

/-- A report under its own serial number is cached, and its row is written if its type is known. -/
theorem handle_writes (type : DBType) (ctx : DeviceContext) (s : Service)
    {connection : String × String} {report : Report}
    (read : NewConnectionHandler.readMessage poco connection.2 = some report)
    {deviceType revision : String} (running : report.running = some (deviceType, revision))
    (own : report.serial = connection.1) :
    ∃ endPoint,
      (NewConnectionHandler.handle poco type ctx s connection).deviceCache =
          DeviceCache.addToCache s.deviceCache connection.1 deviceType endPoint revision ∧
        ((NewConnectionHandler.handle poco type ctx s connection).tables =
            deviceStep type s.tables
              (.setRevision s.catalogue ctx connection.1 revision deviceType endPoint) ∨
          (NewConnectionHandler.handle poco type ctx s connection).tables = s.tables ∧
            AutoUpdater.latestFirmware s.catalogue deviceType = none) := by
  -- The two kinds of reports write in different orders, but the same places.
  simp only [NewConnectionHandler.handle, read]
  cases report with
  | disconnection sNum endPoint => exact absurd running (by simp [Report.running])
  | connection serial deviceType revision endPoint =>
    obtain ⟨rfl, rfl⟩ := Prod.mk.inj (Option.some.inj running)
    have own : serial = connection.1 := own
    subst own
    refine ⟨endPoint, ?_, ?_⟩
    · simp only [NewConnectionHandler.applyReport, NewConnectionHandler.queueUnlessLatest_deviceCache]
      split <;> rfl
    · simp only [NewConnectionHandler.applyReport, NewConnectionHandler.queueUnlessLatest_tables]
      have age := isSome_computeFirmwareAge type s.catalogue deviceType revision
      cases newest : AutoUpdater.latestFirmware s.catalogue deviceType with
      | none => exact Or.inr (by simp [age, newest])
      | some fwDetails => exact Or.inl (by simp [age, newest, deviceStep])
  | ping serial deviceType revision endPoint =>
    obtain ⟨rfl, rfl⟩ := Prod.mk.inj (Option.some.inj running)
    have own : serial = connection.1 := own
    subst own
    refine ⟨endPoint, ?_, Or.inl ?_⟩
    · simp only [NewConnectionHandler.applyReport, NewConnectionHandler.queueUnlessLatest_deviceCache]
    · simp only [NewConnectionHandler.applyReport, NewConnectionHandler.queueUnlessLatest_tables,
        deviceStep]

/-- What a device has reported after a report under its own serial number. -/
theorem runs_handle (type : DBType) (ctx : DeviceContext) {connection : String × String}
    {report : Report}
    (read : NewConnectionHandler.readMessage poco connection.2 = some report)
    {deviceType revision : String} (running : report.running = some (deviceType, revision))
    (own : report.serial = connection.1) {serialNumber reported : String}
    (after : Runs (NewConnectionHandler.handle poco type ctx s connection) serialNumber reported) :
    (serialNumber = connection.1 ∧ reported = revision) ∨ Runs s serialNumber reported ∧
      (serialNumber = connection.1 → AutoUpdater.latestFirmware s.catalogue deviceType = none) := by
  -- A reported revision is in the row of the device or in its cached entry.
  obtain ⟨endPoint, cache, tables⟩ := handle_writes type ctx s read running own
  rcases after with ⟨row, found, rfl⟩ | ⟨E, cached, rfl⟩
  · rcases tables with written | ⟨same, unknown⟩
    · rw [written] at found
      by_cases named : serialNumber = connection.1
      · subst named
        exact Or.inl ⟨rfl, revision_setDeviceRevision found⟩
      · -- The row of another device is as it was.
        rw [lookup_deviceStep type s.tables _ (Ne.symm named)] at found
        exact Or.inr ⟨Or.inl ⟨row, found, rfl⟩, fun own => absurd own named⟩
    · rw [same] at found
      exact Or.inr ⟨Or.inl ⟨row, found, rfl⟩, fun _ => unknown⟩
  · rw [cache] at cached
    by_cases named : serialNumber = connection.1
    · subst named
      refine Or.inl ⟨rfl, ?_⟩
      rw [DeviceCache.getElem?_addToCache, if_pos rfl, Option.mem_def] at cached
      rw [← Option.some.inj cached]
    · have others := (ignores_addToCache (Ne.symm named) deviceType endPoint revision s).deviceCache
      have found : E ∈ s.deviceCache[serialNumber]? := others ▸ cached
      exact Or.inr ⟨Or.inr ⟨E, found, rfl⟩, fun own => absurd own named⟩

/-- A disconnection leaves the revisions that devices have reported. -/
theorem runs_disconnected {sNum endPoint serialNumber revision : String}
    (after : Runs { s with tables := (DevicesDB.setDeviceDisconnected s.tables sNum endPoint).2 }
      serialNumber revision) : Runs s serialNumber revision := by
  -- The cached entries are not touched at all.
  rcases after with ⟨row, found, reported⟩ | cached
  · rw [lookup_setDeviceDisconnected] at found
    split at found
    · -- The row of the device is changed in its status and endpoint only.
      rename_i same
      obtain ⟨D, stored, rfl⟩ := Option.map_eq_some_iff.mp found
      exact Or.inl ⟨D, same ▸ stored, reported⟩
    · exact Or.inl ⟨row, found, reported⟩
  · exact Or.inr cached

/-- A report changes no firmware. -/
theorem catalogue_handle (type : DBType) (ctx : DeviceContext) (s : Service)
    (connection : String × String) :
    (NewConnectionHandler.handle poco type ctx s connection).catalogue = s.catalogue := by
  -- The branches write to the tables, the queue and the cache.
  unfold NewConnectionHandler.handle
  cases NewConnectionHandler.readMessage poco connection.2 with
  | none => rfl
  | some report =>
    cases report with
    | disconnection => rfl
    | connection serial deviceType revision endPoint =>
      simp only [NewConnectionHandler.applyReport, NewConnectionHandler.queueUnlessLatest_catalogue]
      split <;> rfl
    | ping serial deviceType revision endPoint =>
      simp only [NewConnectionHandler.applyReport, NewConnectionHandler.queueUnlessLatest_catalogue]

/-- A report that overtakes no entry keeps the queue fresh. -/
theorem fresh_report (backed : Backed s.catalogue) (fresh : Fresh s) {ctx : DeviceContext}
    {connection : String × String} (undisturbed : Undisturbed poco s (.report ctx connection)) :
    Fresh (step poco parse type s (.report ctx connection)) := by
  -- A report changes neither the catalogue nor the entries that wait already.
  have catalogue : (step poco parse type s (.report ctx connection)).catalogue = s.catalogue :=
    catalogue_handle type ctx s connection
  have queue : (step poco parse type s (.report ctx connection)).autoUpdater.queue =
      s.autoUpdater.queue ++ (outdated poco s (.report ctx connection)).toList := by
    have between : (ServiceEvent.report ctx connection).Between := trivial
    rw [autoUpdater_step between s]
  cases read : NewConnectionHandler.readMessage poco connection.2 with
  | none =>
    -- A message that is not read changes nothing.
    have same : step poco parse type s (.report ctx connection) = s := by
      simp only [step, NewConnectionHandler.handle, read]
    rwa [same]
  | some report =>
    cases running : report.running with
    | none =>
      refine fresh.mono catalogue (fun entry member => ?_) fun serialNumber revision after => ?_
      · rw [queue] at member
        simpa [outdated, read, running] using member
      · cases report with
        | disconnection sNum endPoint =>
          simp only [step, NewConnectionHandler.handle, read] at after
          exact runs_disconnected after
        | connection => contradiction
        | ping => contradiction
    | some values =>
      obtain ⟨deviceType, revision⟩ := values
      obtain ⟨own, waits⟩ := undisturbed report read (deviceType, revision) running
      intro entry member fwDetails newest after
      rw [catalogue] at newest
      rw [queue] at member
      -- What the device runs now it ran before, or it has just reported it.
      have stores := runs_handle type ctx read running own after
      rcases List.mem_append.mp member with waiting | queued
      · rcases stores with ⟨same, reported⟩ | ⟨before, _⟩
        · exact waits entry waiting same fwDetails newest reported
        · exact fresh entry waiting fwDetails newest before
      · -- The report has been queued because the newest entry of its type has another revision.
        obtain ⟨rfl, older⟩ := outdated_report read running (Option.mem_toList.mp queued)
        rcases stores with ⟨_, reported⟩ | ⟨_, unknown⟩
        · simp only [AutoUpdater.latestFirmware, Option.bind_eq_bind, Option.mem_def,
            Option.bind_eq_some_iff] at newest
          obtain ⟨best, found, row⟩ := newest
          have named := backed deviceType best found fwDetails row
          rw [LatestFirmwareCache.findLatestFirmware] at found
          rw [LatestFirmwareCache.isLatest, found] at older
          exact of_decide_eq_false older (named.symm.trans reported)
        · rw [unknown rfl] at newest
          contradiction

/-- An event that overtakes no entry of the queue keeps it fresh. -/
theorem fresh_step {event : ServiceEvent} (backed : Backed s.catalogue) (fresh : Fresh s)
    (undisturbed : Undisturbed poco s event) :
    Backed (step poco parse type s event).catalogue ∧ Fresh (step poco parse type s event) := by
  -- Only reports and changes of the catalogue can make a device run the newest firmware.
  cases event with
  | report ctx connection =>
    refine ⟨?_, fresh_report backed fresh undisturbed⟩
    rw [step, catalogue_handle]
    exact backed
  | catalogue c => exact undisturbed
  | command S =>
    refine ⟨backed, fresh.mono rfl (fun _ member => member) (runs_of_subset ?_ rfl)⟩
    -- A command deletes rows or none.
    simp only [step]
    cases handled : NewCommandHandler.handle parse type s.tables S with
    | none => exact fun _ stored => stored
    | some after =>
      rcases handle_cases handled with rfl | ⟨_, rfl⟩
      · exact fun _ stored => stored
      · exact (subset_removeDevice type s.tables S.1).1
  | onTimer turns =>
    refine ⟨backed, fresh.mono rfl (fun entry member => ?_) fun _ _ running => running⟩
    exact (AutoUpdater.ignores_onTimer entry.1 turns s.autoUpdater).queue entry member rfl
  | reset =>
    exact ⟨backed, fresh.mono rfl (fun _ member => absurd member List.not_mem_nil)
      fun _ _ running => running⟩
  | deleteEntry id =>
    exact ⟨backed, fresh.mono rfl (fun _ member => member) fun _ _ running => running⟩

/-- In a pass over a fresh queue every round finds its device still outdated. -/
theorem roundsOutdated_of_fresh {event : ServiceEvent} (fresh : Fresh s)
    (undisturbed : Undisturbed poco s event) : RoundsOutdated poco s event := by
  cases event with
  | onTimer turns =>
    -- The rounds only take entries from the queue.
    have waits : Transition.Along (AutoUpdater.round poco)
        (fun updater _ => ∀ entry ∈ updater.queue, entry ∈ s.autoUpdater.queue) s.autoUpdater
        turns := by
      refine Transition.along_of_states (Transition.invariant_along
        (fun updater : AutoUpdater => ∀ entry ∈ updater.queue, entry ∈ s.autoUpdater.queue) ?_
        (fun _ member => member) (Transition.along_true (AutoUpdater.round poco) _ turns))
      intro updater turn before _ entry member
      rw [(AutoUpdater.commands_round poco updater turn).1] at member
      exact before entry (List.mem_of_mem_tail member)
    have catalogues := Transition.along_of_forall (AutoUpdater.round poco) undisturbed s.autoUpdater
    refine Transition.along_mono ?_ (Transition.along_and.mpr ⟨waits, catalogues⟩)
    intro updater turn ⟨waits, same⟩ entry first fwDetails newest running
    rw [same] at newest
    exact absurd running (fresh entry (waits entry (List.mem_of_mem_head? first)) fwDetails newest)
  | report => trivial
  | command => trivial
  | reset => trivial
  | deleteEntry => trivial
  | catalogue => trivial

/--
No command is for what its device runs if and only if every round finds its device still outdated.

This is so in every run that overtakes no entry of the queue, because the newest revision was
compared with the reported one when the entry was queued; nothing compares them again later.
-/
theorem sendsOther_iff_roundsOutdated (poco : Poco) (parse : String → Option Nlohmann.Json)
    (type : DBType) (s : Service) (events : List ServiceEvent) :
    (Transition.Along (step poco parse type) (SendsOther poco parse type) s events ↔
        Transition.Along (step poco parse type) (RoundsOutdated poco) s events) ∧
      (Backed s.catalogue → Fresh s →
        Transition.Along (step poco parse type) (Undisturbed poco) s events →
        Transition.Along (step poco parse type) (SendsOther poco parse type) s events) := by
  -- The equivalence holds event by event, in whatever state the event finds the service.
  have exact_ : Transition.Along (step poco parse type) (SendsOther poco parse type) s events ↔
      Transition.Along (step poco parse type) (RoundsOutdated poco) s events :=
    Transition.along_congr (fun _ => True) (fun _ _ _ _ => trivial)
      (fun _ event _ => sendsOther_iff event) trivial events
  refine ⟨exact_, fun backed fresh undisturbed => exact_.mpr ?_⟩
  -- The queue is fresh in all states, so every pass is over a fresh queue.
  have states := Transition.along_of_states (Transition.invariant_along
    (fun s : Service => Backed s.catalogue ∧ Fresh s)
    (fun _ _ both undisturbed => fresh_step both.1 both.2 undisturbed) ⟨backed, fresh⟩ undisturbed)
  refine Transition.along_mono ?_ (Transition.along_and.mpr ⟨states, undisturbed⟩)
  intro s event ⟨both, undisturbed⟩
  exact roundsOutdated_of_fresh both.2 undisturbed

/-- The one firmware of that catalogue has the revision of its entry. -/
theorem backed_knownType : Backed NewConnectionHandler.knownType.catalogue := by
  intro deviceType newest found F stored
  have entries : (NewConnectionHandler.knownType.catalogue.latestFirmwareCache.cache.toList.all fun item =>
      (FirmwaresDB.getFirmware NewConnectionHandler.knownType.catalogue item.2.id).all fun F =>
        F.revision == item.2.revision) = true := by decide +kernel
  have entry := List.all_eq_true.mp entries _ (Std.ExtTreeMap.mem_toList_iff_getElem?_eq_some.mpr found)
  rw [Option.mem_def.mp stored] at entry
  exact eq_of_beq entry

/-- An outdated device that pings, and the pass after that. -/
def outdatedRun : List ServiceEvent :=
  [.report { uuid := "a" } ("903cb3000001", NewConnectionHandler.pingText), .onTimer [allowingRound]]

/-- In that run nothing overtakes the entry of the device. -/
theorem undisturbed_outdatedRun :
    Transition.Along (step allowingPoco (fun _ => none) .sqlite) (Undisturbed allowingPoco)
      NewConnectionHandler.knownType outdatedRun := by
  refine ⟨?_, ?_, trivial⟩
  · -- The ping carries the number of its device, and nobody waits.
    intro report read running known
    refine ⟨?_, fun _ waiting => absurd waiting List.not_mem_nil⟩
    have own : ((NewConnectionHandler.readMessage allowingPoco NewConnectionHandler.pingText).all fun report =>
        report.serial == "903cb3000001") = true := by decide +kernel
    have one : NewConnectionHandler.readMessage allowingPoco NewConnectionHandler.pingText = some report := read
    rw [one] at own
    exact eq_of_beq own
  · -- The pass reads the catalogue that the report has left alone.
    intro turn member
    have same : turn = allowingRound := List.mem_singleton.mp member
    have kept : (step allowingPoco (fun _ => none) .sqlite NewConnectionHandler.knownType
        (.report { uuid := "a" } ("903cb3000001", NewConnectionHandler.pingText))).catalogue =
          NewConnectionHandler.knownType.catalogue := by
      simp only [step]
      exact catalogue_handle _ _ _ _
    rw [kept, same, allowingRound]

/-- The device is sent one command, and it is not for what the device runs. -/
theorem sendsOther_outdated :
    AutoUpdater.commandsTo "903cb3000001" (outdatedRun.foldl (step allowingPoco (fun _ => none) .sqlite)
        NewConnectionHandler.knownType).autoUpdater.actions = 1 ∧
      Transition.Along (step allowingPoco (fun _ => none) .sqlite) (SendsOther allowingPoco (fun _ => none) .sqlite)
        NewConnectionHandler.knownType outdatedRun := by
  have one : AutoUpdater.commandsTo "903cb3000001" (outdatedRun.foldl (step allowingPoco (fun _ => none) .sqlite)
      NewConnectionHandler.knownType).autoUpdater.actions = 1 := by decide +kernel
  have fresh : Fresh NewConnectionHandler.knownType := fun _ waiting => absurd waiting List.not_mem_nil
  exact ⟨one, (sendsOther_iff_roundsOutdated allowingPoco (fun _ => none) .sqlite
    NewConnectionHandler.knownType outdatedRun).2 backed_knownType fresh undisturbed_outdatedRun⟩

/-- A later ping of the same device, which runs the newest firmware by then. -/
def upgradedPingText : String :=
  "\x7b\"payload\":\x7b\"ping\":\x7b\"compatible\":\"eap101\"," ++
    "\"serialNumber\":\"903cb3000001\",\"firmware\":\"r2\"\x7d\x7d\x7d"

/-- The document of a ping of the device. -/
def pingDocument (firmware : String) : Var :=
  .object [("payload", .object [("ping", .object [("compatible", .string "eap101"),
    ("serialNumber", .string "903cb3000001"), ("firmware", .string firmware)])])]

/-- A parser that knows both pings, and the answer that allows an upgrade. -/
def overtakingPoco : Poco := .onDocuments
  [(NewConnectionHandler.pingText, pingDocument "r1"), (upgradedPingText, pingDocument "r2"),
    (allowedText, .object [("firmwareUpgrade", .string "yes")])]

/-- A device is queued, reports the newest revision before the timer comes, and then comes the timer. -/
def overtakingRun : List ServiceEvent :=
  [.catalogue NewConnectionHandler.knownType.catalogue,
    .report { uuid := "a" } ("903cb3000001", NewConnectionHandler.pingText),
    .report { uuid := "b" } ("903cb3000001", upgradedPingText),
    .onTimer [allowingRound]]

/-- A device that reports the newest firmware while it waits is sent that firmware all the same. -/
theorem sent_what_it_runs :
    ¬ ∀ (poco : Poco) (parse : String → Option Nlohmann.Json) (type : DBType)
      (events : List ServiceEvent),
      Transition.Along (step poco parse type) (SendsOther poco parse type) {} events := by
  intro other
  obtain ⟨_, _, _, pass, _⟩ := other overtakingPoco (fun _ => none) .sqlite overtakingRun
  -- The pass asks, gets its answer, and sends.
  refine pass [.sent "903cb3000001" AutoUpdater.storedFirmware,
    .asked "903cb3000001" 1700000000 (some (true, "yes", false))] ?_ "903cb3000001"
    AutoUpdater.storedFirmware List.mem_cons_self (Or.inr ?_)
  · decide +kernel
  · exact ⟨⟨"eap101", "", "r2"⟩, by decide +kernel, rfl⟩

/-- The second ping has left its entry in the queue. -/
example : AutoUpdater.commandsTo "903cb3000001" (overtakingRun.foldl
    (step overtakingPoco (fun _ => none) .sqlite) {}).autoUpdater.actions = 1 := by
  decide +kernel

end Fms.Service
