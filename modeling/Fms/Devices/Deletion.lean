import Fms.Devices.Commands
import Fms.Devices.History
import Fms.Devices.ReportKinds
import Fms.Upgrade.Actions

/-! What is left of a device after it has been deleted, until the service hears of it again. -/

namespace Fms

/-- What can happen to the stores that keep devices, and to what they are read with. -/
inductive ServiceEvent where
  /-- A message about connections, with its key. -/
  | report (ctx : DeviceContext) (connection : String × String)
  /-- A command, with its key. -/
  | command (S : String × String)
  | onTimer (turns : List Turn)
  /-- `AutoUpdater::Reset`. -/
  | reset
  /-- A request to delete one entry of a history. -/
  | deleteEntry (id : String)
  /-- The catalogue becomes another one. -/
  | catalogue (c : Catalogue)

/-- The device a report is about, as the report itself says. -/
def Report.serial : Report → String
  | connection serial _ _ _ => serial
  | disconnection sNum _ => sNum
  | ping serial _ _ _ => serial

namespace Service

/-- The service after an event; a command that throws changes nothing. -/
def step (poco : Poco) (parse : String → Option Nlohmann.Json) (type : DBType) (s : Service) :
    ServiceEvent → Service
  | .report ctx connection => NewConnectionHandler.handle poco type ctx s connection
  | .command S => { s with
      tables := (NewCommandHandler.handle parse type s.tables S).getD s.tables }
  | .onTimer turns => { s with autoUpdater := s.autoUpdater.onTimer poco turns }
  | .reset => { s with autoUpdater := s.autoUpdater.reset }
  | .deleteEntry id => { s with
      tables.history := (HistoryDB.deleteHistoryEntry s.tables.history id).2 }
  | .catalogue c => { s with catalogue := c }

/-- An event mentions a device: it reports about it, by its key or by its contents. -/
def Mentions (poco : Poco) (serialNumber : String) : ServiceEvent → Prop
  | .report _ connection => connection.1 = serialNumber ∨
    ∃ report, NewConnectionHandler.readMessage poco connection.2 = some report ∧
      report.serial = serialNumber
  | .command _ | .onTimer _ | .reset | .deleteEntry _ | .catalogue _ => False

/-- `RESTAPI_firmwareAgeHandler::DoGet` for a selected device: its age, if there is one to answer. -/
def selectedAge (type : DBType) (s : Service) (serialNumber : String) :
    Option FirmwaresDB.FirmwareAgeDetails := do
  let E ← s.deviceCache[serialNumber]?
  FirmwaresDB.computeFirmwareAge type s.catalogue E.deviceType E.revision

/-- None of the stores holds a device. -/
def HoldsNothing (s : Service) (serialNumber : String) : Prop :=
  NewCommandHandler.Gone s.tables serialNumber ∧ s.deviceCache[serialNumber]? = none ∧
    (∀ entry ∈ s.autoUpdater.queue, entry.1 ≠ serialNumber) ∧
    s.autoUpdater.cache[serialNumber]? = none

/-- Between two states of the service nothing has been learnt of a device. -/
structure Ignores (serialNumber : String) (before after : Service) : Prop where
  gone : NewCommandHandler.Gone before.tables serialNumber →
    NewCommandHandler.Gone after.tables serialNumber
  deviceCache : after.deviceCache[serialNumber]? = before.deviceCache[serialNumber]?
  autoUpdater : before.autoUpdater.Ignores serialNumber after.autoUpdater

variable {poco : Poco} {parse : String → Option Nlohmann.Json} {type : DBType} {s : Service}
  {serialNumber : String}

/-- Nothing has been learnt when nothing has happened. -/
theorem Ignores.refl (serialNumber : String) (s : Service) : Ignores serialNumber s s :=
  ⟨fun gone => gone, rfl, .refl serialNumber s.autoUpdater⟩

/-- What has not been learnt on the way has not been learnt at all. -/
theorem Ignores.trans {before middle after : Service} (first : Ignores serialNumber before middle)
    (second : Ignores serialNumber middle after) : Ignores serialNumber before after :=
  ⟨fun gone => second.gone (first.gone gone), second.deviceCache.trans first.deviceCache,
    first.autoUpdater.trans second.autoUpdater⟩

/-- A device is gone when it has no row and no history. -/
theorem gone_iff (tables : DeviceTables) (serialNumber : String) :
    NewCommandHandler.Gone tables serialNumber ↔
      devicesOf tables serialNumber = [] ∧ historyOf tables serialNumber = [] := by
  -- Both halves say that a filter keeps no row.
  simp [NewCommandHandler.Gone, devicesOf, historyOf, List.filter_eq_nil_iff]

/-- A call about another device brings a device back into neither table. -/
theorem gone_deviceStep {tables : DeviceTables} {call : DeviceCall}
    (apart : call.serialNumber ≠ serialNumber)
    (gone : NewCommandHandler.Gone tables serialNumber) :
    NewCommandHandler.Gone (deviceStep type tables call) serialNumber := by
  -- The rows of a device are the same before and after a call about another one.
  obtain ⟨devices, history⟩ := frame_deviceStep type tables call apart
  rw [gone_iff] at gone ⊢
  rw [devices, history]
  exact gone

/-- Queueing a device leaves the others alone. -/
theorem ignores_queueUnlessLatest {other : String} (apart : other ≠ serialNumber)
    (deviceType revision : String) (s : Service) :
    Ignores serialNumber s
      (NewConnectionHandler.queueUnlessLatest other deviceType revision s) := by
  unfold NewConnectionHandler.queueUnlessLatest
  -- A device on the newest revision is not queued.
  split
  · exact ⟨fun gone => gone, rfl,
      AutoUpdater.ignores_toBeUpgraded apart deviceType s.autoUpdater⟩
  · exact Ignores.refl serialNumber s

/-- Changing the tables by a call about another device leaves a device alone. -/
theorem ignores_tables (type : DBType) (call : DeviceCall) (apart : call.serialNumber ≠ serialNumber)
    (s : Service) : Ignores serialNumber s { s with tables := deviceStep type s.tables call } :=
  ⟨gone_deviceStep apart, rfl, .refl serialNumber s.autoUpdater⟩

/-- Remembering a device in the device cache leaves the others alone. -/
theorem ignores_addToCache {other : String} (apart : other ≠ serialNumber)
    (deviceType host revision : String) (s : Service) :
    Ignores serialNumber s
      { s with deviceCache := DeviceCache.addToCache s.deviceCache other deviceType host revision } := by
  refine ⟨fun gone => gone, ?_, .refl serialNumber s.autoUpdater⟩
  -- The entry that is written is that of the other device.
  show (DeviceCache.addToCache s.deviceCache other deviceType host revision)[serialNumber]? = _
  rw [DeviceCache.getElem?_addToCache, if_neg apart]

/-- A report about another device leaves a device alone. -/
theorem ignores_report {ctx : DeviceContext} {connection : String × String}
    (unmentioned : ¬ Mentions poco serialNumber (.report ctx connection)) :
    Ignores serialNumber s (NewConnectionHandler.handle poco type ctx s connection) := by
  obtain ⟨key, contents⟩ := not_or.mp unmentioned
  unfold NewConnectionHandler.handle
  cases read : NewConnectionHandler.readMessage poco connection.2 with
  | none => exact Ignores.refl serialNumber s
  | some report =>
    have other : report.serial ≠ serialNumber := fun same => contents ⟨report, read, same⟩
    -- Each kind of report changes the tables, the queue and the device cache in an order of its own.
    cases report with
    | connection serial deviceType revision endPoint =>
      -- The row and the queue go by the key, the device cache by the contents.
      have own : serial ≠ serialNumber := other
      have written : Ignores serialNumber s
          (if (FirmwaresDB.computeFirmwareAge type s.catalogue deviceType revision).isSome then
            { s with tables := (DevicesDB.setDeviceRevision type s.catalogue ctx s.tables
              connection.1 revision deviceType endPoint).2 }
          else s) := by
        split
        · exact ignores_tables type (.setRevision s.catalogue ctx connection.1 revision deviceType
            endPoint) key s
        · exact Ignores.refl serialNumber s
      exact (written.trans (ignores_queueUnlessLatest key deviceType revision _)).trans
        (ignores_addToCache own deviceType endPoint revision _)
    | disconnection sNum endPoint =>
      exact ignores_tables type (.setDisconnected sNum endPoint) other s
    | ping serial deviceType revision endPoint =>
      have own : serial ≠ serialNumber := other
      have written : Ignores serialNumber s { s with
          tables := deviceStep type s.tables
            (.setRevision s.catalogue ctx serial revision deviceType endPoint) } :=
        ignores_tables type (.setRevision s.catalogue ctx serial revision deviceType endPoint) own s
      exact (written.trans (ignores_addToCache own deviceType endPoint revision _)).trans
        (ignores_queueUnlessLatest key deviceType revision _)

/-- Fewer rows are left of a device that is gone already. -/
theorem gone_of_subset {before after : DeviceTables}
    (devices : ∀ row ∈ after.devices.rows, row ∈ before.devices.rows)
    (history : ∀ row ∈ after.history.rows, row ∈ before.history.rows)
    (gone : NewCommandHandler.Gone before serialNumber) :
    NewCommandHandler.Gone after serialNumber :=
  ⟨fun row member => gone.1 row (devices row member),
    fun row member => gone.2 row (history row member)⟩

/-- Removing a device leaves rows that were there before. -/
theorem subset_removeDevice (type : DBType) (tables : DeviceTables) (removed : String) :
    (∀ row ∈ (NewCommandHandler.removeDevice type tables removed).devices.rows,
        row ∈ tables.devices.rows) ∧
      ∀ row ∈ (NewCommandHandler.removeDevice type tables removed).history.rows,
        row ∈ tables.history.rows := by
  -- Both statements are deletions, and one that the database refuses deletes nothing.
  constructor
  · intro row member
    exact (KeyedTable.mem_delete.mp member).1
  · intro row member
    simp only [NewCommandHandler.removeDevice, HistoryDB.deleteHistory, Orm.deleteRecords] at member
    split at member
    · exact (KeyedTable.mem_delete.mp member).1
    · exact member

/-- A command changes nothing, or it is a deletion of its key and removes that device. -/
theorem handle_cases {tables after : DeviceTables} {S : String × String}
    (handled : NewCommandHandler.handle parse type tables S = some after) :
    after = tables ∨ NewCommandHandler.DeletesKey parse S ∧
      after = NewCommandHandler.removeDevice type tables S.1 := by
  obtain ⟨M, parsed, host, _⟩ :=
    (NewCommandHandler.isSome_handle parse type tables S).mp (by rw [handled]; rfl)
  obtain ⟨applied, unchanged⟩ := NewCommandHandler.handle_eq parsed host type tables
  -- A message that is no deletion changes nothing.
  by_cases deletes : ∃ payloadSection, NewCommandHandler.Deletes M payloadSection
  · obtain ⟨payloadSection, deletion⟩ := deletes
    rw [applied payloadSection deletion] at handled
    -- The command is carried out only when its serial number is its key.
    simp only [NewCommandHandler.applyDeletion, Option.bind_eq_bind, Option.bind_eq_some_iff]
      at handled
    obtain ⟨inner, arguments, pSerialNumber, serial, outcome⟩ := handled
    split at outcome
    · rename_i same
      obtain rfl := Nlohmann.Json.equals_iff.mp same
      -- Arguments that are null would have no serial number.
      have present : inner ≠ .null := by
        rintro rfl
        simp [Nlohmann.Json.index] at serial
      refine Or.inr ⟨⟨M, payloadSection, inner, parsed, deletion, ?_, ?_⟩,
        (Option.some.inj outcome).symm⟩
      · exact Nlohmann.Json.member_of_index arguments present
      · exact Nlohmann.Json.member_of_index serial (by simp)
    · exact Or.inl (Option.some.inj outcome).symm
  · rw [unchanged (not_exists.mp deletes)] at handled
    exact Or.inl (Option.some.inj handled).symm

/-- An event that does not mention a device leaves it alone. -/
theorem ignores_step {event : ServiceEvent} (unmentioned : ¬ Mentions poco serialNumber event)
    (s : Service) : Ignores serialNumber s (step poco parse type s event) := by
  -- Only reports and commands go by a serial number; the others are about the whole service.
  cases event with
  | report ctx connection => exact ignores_report unmentioned
  | command S =>
    refine ⟨fun gone => ?_, rfl, .refl serialNumber s.autoUpdater⟩
    -- Whatever a command deletes, it brings nothing back.
    simp only [step]
    cases handled : NewCommandHandler.handle parse type s.tables S with
    | none => exact gone
    | some after =>
      rcases handle_cases handled with rfl | ⟨_, rfl⟩
      · exact gone
      · obtain ⟨devices, history⟩ := subset_removeDevice type s.tables S.1
        exact gone_of_subset devices history gone
  | onTimer turns =>
    exact ⟨fun gone => gone, rfl, AutoUpdater.ignores_onTimer serialNumber turns s.autoUpdater⟩
  | reset =>
    exact ⟨fun gone => gone, rfl, AutoUpdater.ignores_reset serialNumber s.autoUpdater⟩
  | deleteEntry id =>
    refine ⟨fun gone => ⟨gone.1, fun row member => ?_⟩, rfl, .refl serialNumber s.autoUpdater⟩
    exact gone.2 row (KeyedTable.mem_delete.mp member).1
  | catalogue c => exact ⟨fun gone => gone, rfl, .refl serialNumber s.autoUpdater⟩

/-- As long as a device is not mentioned, nothing is learnt of it. -/
theorem ignores_states {events : List ServiceEvent}
    (unmentioned : ∀ event ∈ events, ¬ Mentions poco serialNumber event) (s : Service) :
    ∀ reached ∈ Transition.states (step poco parse type) s events,
      Ignores serialNumber s reached := by
  -- Ignoring is transitive, so it is carried along like an invariant.
  exact Transition.invariant_along (Ignores serialNumber s)
    (fun state event before unmentioned => before.trans (ignores_step unmentioned state))
    (Ignores.refl serialNumber s)
    (Transition.along_of_forall (step poco parse type) unmentioned s)

/-- A command to delete a device removes it from the tables and touches nothing else. -/
theorem step_deletion (poco : Poco) (type : DBType) {S : String × String}
    (processable : NewCommandHandler.Processable parse S)
    (deletes : NewCommandHandler.DeletesKey parse S) (s : Service) :
    step poco parse type s (.command S) =
      { s with tables := NewCommandHandler.removeDevice type s.tables S.1 } := by
  -- A processable deletion of its own key is carried out.
  simp only [step, NewCommandHandler.handle_of_deletesKey processable deletes type s.tables,
    Option.getD_some]

/--
After a device has been deleted, and until it is mentioned again, the tables hold nothing of it.

The memory of the process is left as it was by the deletion: the device cache keeps its entry, and
the updater learns nothing new of the device. What held nothing of it before holds nothing after,
sends it no upgrade command, and answers no age for it.
-/
theorem gone_until_mentioned (poco : Poco) (parse : String → Option Nlohmann.Json) (type : DBType)
    (s : Service) (S : String × String) (plain : Sql.Plain type.dialect S.1)
    (processable : NewCommandHandler.Processable parse S)
    (deletes : NewCommandHandler.DeletesKey parse S) (events : List ServiceEvent)
    (unmentioned : ∀ event ∈ events, ¬ Mentions poco S.1 event) :
    ((step poco parse type s (.command S)).deviceCache = s.deviceCache ∧
        (step poco parse type s (.command S)).autoUpdater = s.autoUpdater) ∧
      ∀ reached ∈ Transition.states (step poco parse type)
          (step poco parse type s (.command S)) events,
        NewCommandHandler.Gone reached.tables S.1 ∧
          reached.deviceCache[S.1]? = s.deviceCache[S.1]? ∧
          s.autoUpdater.Ignores S.1 reached.autoUpdater ∧
          (s.deviceCache[S.1]? = none → selectedAge type reached S.1 = none ∧
            ((∀ entry ∈ s.autoUpdater.queue, entry.1 ≠ S.1) →
              s.autoUpdater.cache[S.1]? = none → HoldsNothing reached S.1)) := by
  have deleted := step_deletion poco type processable deletes s
  refine ⟨by rw [deleted]; exact ⟨rfl, rfl⟩, fun reached member => ?_⟩
  obtain ⟨gone, deviceCache, autoUpdater⟩ := ignores_states unmentioned _ reached member
  rw [deleted] at gone deviceCache autoUpdater
  -- The deletion empties the tables, and the events after it bring nothing back.
  have removed : NewCommandHandler.Gone (NewCommandHandler.removeDevice type s.tables S.1) S.1 :=
    (NewCommandHandler.gone_removeDevice type s.tables S.1).mpr
      (NewCommandHandler.clauseSelects_of_plain plain)
  refine ⟨gone removed, deviceCache, autoUpdater, fun uncached => ⟨?_, fun absent unasked => ?_⟩⟩
  · rw [selectedAge, deviceCache, uncached]
    rfl
  · refine ⟨gone removed, deviceCache.trans uncached,
      fun entry present own => absent entry (autoUpdater.queue entry present own) own, ?_⟩
    -- An option cached now would have been cached at the deletion.
    cases cached : reached.autoUpdater.cache[S.1]? with
    | none => rfl
    | some c =>
      have before := (autoUpdater.silent absent).1 c cached
      rw [unasked] at before
      contradiction

/-- A device reports once. -/
def oneReport : List ServiceEvent :=
  [.report { uuid := "a" } ("903cb3000001", NewConnectionHandler.pingText)]

/-- The service in which a device that has been upgraded once reports another firmware. -/
def reportedAnew : Service :=
  oneReport.foldl (step NewConnectionHandler.reportPoco NewCommandHandler.deletionParser .sqlite)
    { tables := NewCommandHandler.knownDevice }

/-- The tables hold nothing of a device that has been deleted, with its history, whatever another device sends. -/
theorem gone_oneReport :
    reportedAnew.tables.history.rows.length = 2 ∧
      NewCommandHandler.Gone
        ([ServiceEvent.report { uuid := "b" } ("903cb3000002", "")].foldl
          (step NewConnectionHandler.reportPoco NewCommandHandler.deletionParser .sqlite)
          (step NewConnectionHandler.reportPoco NewCommandHandler.deletionParser .sqlite reportedAnew
            (.command NewCommandHandler.deletion))).tables "903cb3000001" := by
  -- The report of the other device is not even readable.
  have unmentioned : ∀ event ∈ [ServiceEvent.report { uuid := "b" } ("903cb3000002", "")],
      ¬ Mentions NewConnectionHandler.reportPoco NewCommandHandler.deletion.1 event := by
    intro event member
    rw [List.mem_singleton.mp member]
    have unread : NewConnectionHandler.readMessage NewConnectionHandler.reportPoco "" = none := by
      decide +kernel
    simp [Mentions, unread, NewCommandHandler.deletion]
  exact ⟨by decide +kernel, ((gone_until_mentioned NewConnectionHandler.reportPoco NewCommandHandler.deletionParser
    .sqlite reportedAnew NewCommandHandler.deletion (by decide +kernel)
    NewCommandHandler.processable_deletion NewCommandHandler.deletesKey_deletion _ unmentioned).2 _
    (Transition.last_mem_states _ _)).1⟩

/-- A device that has reported stays in the device cache when it is deleted. -/
theorem cached_after_deletion :
    ¬ ∀ (poco : Poco) (parse : String → Option Nlohmann.Json) (type : DBType)
      (before : List ServiceEvent) (S : String × String), Sql.Plain type.dialect S.1 →
      NewCommandHandler.Processable parse S → NewCommandHandler.DeletesKey parse S →
      HoldsNothing (step poco parse type (before.foldl (step poco parse type) {}) (.command S))
        S.1 := by
  intro forgotten
  -- The device has reported once before it is deleted.
  have nothing := forgotten NewConnectionHandler.reportPoco NewCommandHandler.deletionParser .sqlite
    oneReport NewCommandHandler.deletion (by decide +kernel)
    NewCommandHandler.processable_deletion NewCommandHandler.deletesKey_deletion
  have cached : ((step NewConnectionHandler.reportPoco NewCommandHandler.deletionParser .sqlite
      (oneReport.foldl (step NewConnectionHandler.reportPoco NewCommandHandler.deletionParser
        .sqlite) {}) (.command NewCommandHandler.deletion)).deviceCache[
          NewCommandHandler.deletion.1]?).isSome = true := by
    decide +kernel
  -- No command removes an entry from the device cache.
  rw [nothing.2.1] at cached
  exact absurd cached (by decide)

end Service

end Fms
