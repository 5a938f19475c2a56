import Fms.Devices.History

/-! What `SetDeviceRevision` leaves when the database does not execute some of its statements. -/

namespace Fms

/-- Which statements of a call that sets a revision the database executes, beside the insertions. -/
structure Executed where
  deviceRead : Bool := true
  firmwareLookup : Bool := true
  deviceUpdate : Bool := true
  deriving DecidableEq, Repr

/-- `AddHistory`, for which a lookup that is not executed is a revision that is not stored. -/
def HistoryDB.attemptHistory (type : DBType) (c : Catalogue) (ctx : DeviceContext) (executed : Executed)
    (history : HistoryTable) (serialNumber deviceType previousRevision newVersion : String) :
    Bool × HistoryTable :=
  let found :=
    if executed.firmwareLookup then FirmwaresDB.getFirmwareByRevision type c newVersion deviceType else none
  let revisionId :=
    match found with
    | some F => F.id
    | none => "unknown"
  Orm.createRecord ctx.historyExecuted history {
    id := ctx.uuid
    serialNumber := serialNumber
    fromRelease := previousRevision
    toRelease := newVersion
    commandUUID := ""
    revisionId := revisionId
    upgraded := ctx.now }

/-- `SetDeviceRevision`, for which a read that is not executed is a device that is not stored. -/
def DevicesDB.attemptDeviceRevision (type : DBType) (c : Catalogue) (ctx : DeviceContext) (executed : Executed)
    (s : DeviceTables) (serialNumber revision deviceType endPoint : String) : Bool × DeviceTables :=
  match if executed.deviceRead then Orm.getRecord s.devices serialNumber else none with
  | some D =>
    let history :=
      if D.revision ≠ revision then
        (HistoryDB.attemptHistory type c ctx executed s.history serialNumber deviceType D.revision revision).2
      else s.history
    let D := { D with
      revision := revision
      deviceType := deviceType
      endPoint := endPoint
      status := "connected" }
    let (updated, devices) :=
      if executed.deviceUpdate then Orm.updateRecord s.devices serialNumber D else (false, s.devices)
    (updated, ⟨devices, history⟩)
  | none =>
    let (created, devices) := Orm.createRecord ctx.deviceExecuted s.devices {
      serialNumber := serialNumber
      revision := revision
      deviceType := deviceType
      endPoint := endPoint
      lastUpdate := ctx.now
      status := "connected" }
    (created, { s with devices })

/-- The entry records that the revision of a device has changed. -/
def RecordsChange (ctx : DeviceContext) (serialNumber before after : String) (entry : RevisionHistoryEntry) :
    Prop :=
  entry.serialNumber = serialNumber ∧ entry.fromRelease = before ∧ entry.toRelease = after ∧
    entry.upgraded = ctx.now

/-- The row of the device is the one a call that sets its revision writes, and the others are as before. -/
def Connects (ctx : DeviceContext) (s t : DeviceTables) (serialNumber revision deviceType endPoint : String) :
    Prop :=
  ∀ other, t.devices.lookup other =
    if other = serialNumber then
      some (connectedRow ctx.now (s.devices.lookup serialNumber) serialNumber revision deviceType endPoint)
    else s.devices.lookup other

/-- The history has exactly one more entry when the stored revision has changed, and is as before otherwise. -/
def RecordsRevision (ctx : DeviceContext) (s t : DeviceTables) (serialNumber revision : String) : Prop :=
  match s.devices.lookup serialNumber with
  | some D =>
    if D.revision ≠ revision then
      ∃ entry, t.history.rows = s.history.rows ++ [entry] ∧
        RecordsChange ctx serialNumber D.revision revision entry
    else t.history = s.history
  | none => t.history = s.history

/-- A call is reported as done with all of its changes made, or as failed with none of them. -/
def AllOrNothing (ctx : DeviceContext) (s : DeviceTables) (serialNumber revision deviceType endPoint : String)
    (result : Bool × DeviceTables) : Prop :=
  if result.1 then
    Connects ctx s result.2 serialNumber revision deviceType endPoint ∧
      RecordsRevision ctx s result.2 serialNumber revision
  else result.2 = s

/-- A call reads a row with another revision than the one it sets. -/
def Changes (executed : Executed) (s : DeviceTables) (serialNumber revision : String) : Prop :=
  executed.deviceRead = true ∧ ∃ D, s.devices.lookup serialNumber = some D ∧ D.revision ≠ revision

/-- The insertion into the history takes place: it is executed, and its id is new. -/
def Inserted (ctx : DeviceContext) (s : DeviceTables) : Prop :=
  ctx.historyExecuted = true ∧ ∀ entry ∈ s.history.rows, entry.id ≠ ctx.uuid

variable {type : DBType} {c : Catalogue} {ctx : DeviceContext} {executed : Executed} {s : DeviceTables}
  {serialNumber revision deviceType endPoint : String}

/-- With all statements but the insertions executed, this is the call that sets a revision. -/
theorem attemptDeviceRevision_executed (type : DBType) (c : Catalogue) (ctx : DeviceContext) (s : DeviceTables)
    (serialNumber revision deviceType endPoint : String) :
    DevicesDB.attemptDeviceRevision type c ctx {} s serialNumber revision deviceType endPoint =
      DevicesDB.setDeviceRevision type c ctx s serialNumber revision deviceType endPoint := by
  rw [DevicesDB.attemptDeviceRevision, DevicesDB.setDeviceRevision, if_pos rfl]
  rfl

/-- An insertion into the history that takes place appends the entry of the change. -/
theorem attemptHistory_of_inserted (type : DBType) (c : Catalogue) (executed : Executed)
    (inserted : Inserted ctx s) (serialNumber deviceType before revision : String) :
    ∃ entry, (HistoryDB.attemptHistory type c ctx executed s.history serialNumber deviceType before
        revision).2.rows = s.history.rows ++ [entry] ∧ RecordsChange ctx serialNumber before revision entry := by
  obtain ⟨run, new⟩ := inserted
  rw [HistoryDB.attemptHistory, run]
  -- The entry has the generated id, whatever the lookup has found.
  have appended : ∀ entry : RevisionHistoryEntry, entry.id = ctx.uuid →
      (Orm.createRecord true s.history entry).2.rows = s.history.rows ++ [entry] := by
    intro entry named
    obtain ⟨grown, created, rows⟩ := Orm.createRecord_of_fresh (t := s.history) entry
      (by simpa [named] using new)
    rw [created]
    exact rows
  exact ⟨_, appended _ rfl, rfl, rfl, rfl, rfl⟩

/-- An insertion into the history that does not take place leaves it as it is. -/
theorem attemptHistory_of_not_inserted (type : DBType) (c : Catalogue) (executed : Executed)
    (refused : ¬ Inserted ctx s) (serialNumber deviceType before revision : String) :
    (HistoryDB.attemptHistory type c ctx executed s.history serialNumber deviceType before revision).2 =
      s.history := by
  rw [HistoryDB.attemptHistory]
  cases run : ctx.historyExecuted with
  | false => rfl
  | true =>
    -- An executed insertion fails only on an id that is taken.
    have taken : ¬ ∀ entry ∈ s.history.rows, entry.id ≠ ctx.uuid := fun new => refused ⟨run, new⟩
    have failed : ∀ entry : RevisionHistoryEntry, entry.id = ctx.uuid →
        (Orm.createRecord true s.history entry).2 = s.history := by
      intro entry named
      rcases Orm.createRecord_cases true s.history entry with ⟨_, _, new⟩ | failed
      · exact absurd (by simpa [named] using new) taken
      · rw [failed]
    exact failed _ rfl

/-- A call that has read no row creates one or does nothing. -/
theorem allOrNothing_of_unread (unread : executed.deviceRead = false ∨ s.devices.lookup serialNumber = none) :
    AllOrNothing ctx s serialNumber revision deviceType endPoint
      (DevicesDB.attemptDeviceRevision type c ctx executed s serialNumber revision deviceType endPoint) := by
  have none_ : (if executed.deviceRead then Orm.getRecord s.devices serialNumber else none) = none := by
    rcases unread with failed | absent
    · simp [failed]
    · simp [Orm.getRecord, absent]
  rw [DevicesDB.attemptDeviceRevision, none_]
  -- The insertion goes through only if the serial number is free, so no row has been overlooked.
  rcases Orm.createRecord_cases ctx.deviceExecuted s.devices
      (connectedRow ctx.now none serialNumber revision deviceType endPoint) with ⟨created, rows, free⟩ | failed
  · have absent : s.devices.lookup serialNumber = none := KeyedTable.lookup_eq_none.mpr free
    change AllOrNothing ctx s _ _ _ _ ((Orm.createRecord ctx.deviceExecuted s.devices
      (connectedRow ctx.now none serialNumber revision deviceType endPoint)).1, _)
    rw [AllOrNothing, if_pos created, Connects, RecordsRevision, absent]
    exact ⟨KeyedTable.lookup_append rows, rfl⟩
  · change AllOrNothing ctx s _ _ _ _ ((Orm.createRecord ctx.deviceExecuted s.devices
      (connectedRow ctx.now none serialNumber revision deviceType endPoint)).1, { s with devices :=
        (Orm.createRecord ctx.deviceExecuted s.devices
          (connectedRow ctx.now none serialNumber revision deviceType endPoint)).2 })
    rw [failed, AllOrNothing, if_neg Bool.false_ne_true]

section Reading

variable {result : Bool × DeviceTables} {D : DeviceConnectionInformation}
  (called : DevicesDB.attemptDeviceRevision type c ctx executed s serialNumber revision deviceType endPoint = result)
  (read : executed.deviceRead = true) (found : s.devices.lookup serialNumber = some D)

include called read found

/-- A call that has read a row reports what becomes of its update, and writes the row if that is executed. -/
theorem devices_attemptDeviceRevision :
    result.1 = executed.deviceUpdate ∧
      (executed.deviceUpdate = true → Connects ctx s result.2 serialNumber revision deviceType endPoint) ∧
      (executed.deviceUpdate = false → result.2.devices = s.devices) := by
  -- The row has been read, so what is attempted is its update.
  have named : D.serialNumber = serialNumber := (KeyedTable.lookup_eq_some.mp found).2
  subst called named
  have some_ : (if executed.deviceRead then Orm.getRecord s.devices D.serialNumber else none) = some D := by
    rw [read, Orm.getRecord, found, if_pos rfl]
  obtain ⟨done, written⟩ := Orm.updateRecord_of_lookup found
    (connectedRow ctx.now (some D) D.serialNumber revision deviceType endPoint) rfl
  rw [DevicesDB.attemptDeviceRevision, some_]
  cases update : executed.deviceUpdate with
  | false => exact ⟨rfl, fun done => absurd done Bool.false_ne_true, fun _ => rfl⟩
  | true =>
    refine ⟨done, fun _ other => ?_, fun failed => absurd failed.symm Bool.false_ne_true⟩
    rw [found]
    exact written other

/-- A call that has read a row with another revision inserts into the history. -/
theorem history_attemptDeviceRevision :
    result.2.history =
      if D.revision ≠ revision then
        (HistoryDB.attemptHistory type c ctx executed s.history serialNumber deviceType D.revision revision).2
      else s.history := by
  -- The entry is attempted before the update, and only for a changed revision.
  rw [← called, DevicesDB.attemptDeviceRevision, if_pos read, Orm.getRecord, found]

/-- A call that has read a row changes all or nothing exactly when the history goes with the report. -/
theorem allOrNothing_of_read :
    AllOrNothing ctx s serialNumber revision deviceType endPoint result ↔
      if executed.deviceUpdate then RecordsRevision ctx s result.2 serialNumber revision
      else result.2.history = s.history := by
  obtain ⟨reported, connects, kept⟩ := devices_attemptDeviceRevision called read found
  rw [AllOrNothing, reported]
  cases update : executed.deviceUpdate with
  | true => exact and_iff_right (connects update)
  | false =>
    -- The devices are as before, so the state is exactly when the history is.
    have devices : result.2.devices = s.devices := kept update
    change result.2 = s ↔ result.2.history = s.history
    constructor
    · intro same
      rw [same]
    · intro history
      exact congrArg₂ DeviceTables.mk devices history

end Reading

/-- A call changes all or nothing exactly when a change of the revision is recorded as it is written. -/
theorem allOrNothing_iff :
    AllOrNothing ctx s serialNumber revision deviceType endPoint
        (DevicesDB.attemptDeviceRevision type c ctx executed s serialNumber revision deviceType endPoint) ↔
      (Changes executed s serialNumber revision → (Inserted ctx s ↔ executed.deviceUpdate = true)) := by
  -- Without a row that is read, nothing is changed at all.
  by_cases unread : executed.deviceRead = false ∨ s.devices.lookup serialNumber = none
  · refine iff_of_true (allOrNothing_of_unread unread) ?_
    rintro ⟨read, D, found, _⟩
    simp [read, found] at unread
  · obtain ⟨read, found⟩ := not_or.mp unread
    obtain ⟨D, found⟩ := Option.ne_none_iff_exists'.mp found
    have read : executed.deviceRead = true := by simpa using read
    obtain ⟨result, called⟩ : ∃ result, DevicesDB.attemptDeviceRevision type c ctx executed s serialNumber revision
      deviceType endPoint = result := ⟨_, rfl⟩
    have history := history_attemptDeviceRevision called read found
    rw [called, allOrNothing_of_read called read found, RecordsRevision, found]
    by_cases changed : D.revision ≠ revision
    · have changes : Changes executed s serialNumber revision := ⟨read, D, found, changed⟩
      simp only [if_pos changed, changes, true_imp_iff] at history ⊢
      by_cases inserted : Inserted ctx s
      · obtain ⟨entry, rows, records⟩ := attemptHistory_of_inserted type c executed inserted serialNumber deviceType
          D.revision revision
        rw [← history] at rows
        -- An entry has been added, so the update has to take place.
        have grown : result.2.history ≠ s.history := by
          intro same
          rw [same] at rows
          exact absurd (List.self_eq_append_right.mp rows) (List.cons_ne_nil _ _)
        cases executed.deviceUpdate with
        | true => exact iff_of_true ⟨entry, rows, records⟩ (iff_of_true inserted rfl)
        | false => exact iff_of_false grown (by simpa using inserted)
      · have same := attemptHistory_of_not_inserted type c executed inserted serialNumber deviceType
          D.revision revision
        rw [← history] at same
        cases executed.deviceUpdate with
        | true =>
          refine iff_of_false ?_ (by simpa using inserted)
          rintro ⟨entry, rows, _⟩
          rw [same] at rows
          exact absurd (List.self_eq_append_right.mp rows) (List.cons_ne_nil _ _)
        | false => exact iff_of_true same (iff_of_false inserted Bool.false_ne_true)
    · -- The revision stays, and so does the history, whatever becomes of the update.
      have none_ : ¬ Changes executed s serialNumber revision := by
        rintro ⟨_, E, other, differs⟩
        rw [found] at other
        exact changed (Option.some.inj other ▸ differs)
      rw [if_neg changed] at history
      refine iff_of_true ?_ fun changes => absurd changes none_
      cases executed.deviceUpdate with
      | true =>
        rw [if_pos rfl]
        exact (if_neg changed).mpr history
      | false => exact history

/--
A call changes all or nothing, unless it changes the revision of a stored device and is torn.

It is torn when exactly one of the insertion into the history and the update of the device takes place: the
update alone is reported as done, and the insertion alone as failed.
-/
theorem attemptDeviceRevision_torn (type : DBType) (c : Catalogue) (ctx : DeviceContext) (executed : Executed)
    (s : DeviceTables) (serialNumber revision deviceType endPoint : String) :
    let result := DevicesDB.attemptDeviceRevision type c ctx executed s serialNumber revision deviceType endPoint
    (AllOrNothing ctx s serialNumber revision deviceType endPoint result ↔
        (Changes executed s serialNumber revision → (Inserted ctx s ↔ executed.deviceUpdate = true))) ∧
      (Changes executed s serialNumber revision → ¬ Inserted ctx s → executed.deviceUpdate = true →
        result.1 = true ∧ Connects ctx s result.2 serialNumber revision deviceType endPoint ∧
          result.2.history = s.history) ∧
      (Changes executed s serialNumber revision → Inserted ctx s → executed.deviceUpdate = false →
        result.1 = false ∧ result.2.devices = s.devices ∧
          ∃ entry, result.2.history.rows = s.history.rows ++ [entry] ∧
            ∃ D, s.devices.lookup serialNumber = some D ∧
              RecordsChange ctx serialNumber D.revision revision entry) := by
  intro result
  refine ⟨allOrNothing_iff, ?_, ?_⟩
  · -- The entry is missing, and the row has the new revision.
    rintro ⟨read, D, found, changed⟩ refused update
    obtain ⟨reported, connects, _⟩ := devices_attemptDeviceRevision rfl read found
    refine ⟨reported.trans update, connects update, ?_⟩
    rw [history_attemptDeviceRevision rfl read found, if_pos changed]
    exact attemptHistory_of_not_inserted type c executed refused serialNumber deviceType D.revision revision
  · -- The entry is there, and the row has the old revision.
    rintro ⟨read, D, found, changed⟩ inserted update
    obtain ⟨reported, _, kept⟩ := devices_attemptDeviceRevision rfl read found
    obtain ⟨entry, rows, records⟩ := attemptHistory_of_inserted type c executed inserted serialNumber deviceType
      D.revision revision
    refine ⟨reported.trans update, kept update, entry, ?_, D, found, records⟩
    rw [history_attemptDeviceRevision rfl read found, if_pos changed]
    exact rows

/-- The insertion into the history fails, and the call writes the new revision and reports success. -/
theorem allOrNothing_fails :
    let s : DeviceTables := ⟨.single { serialNumber := "aabbccddeeff", revision := "r1", deviceType := "t" }, .empty⟩
    let ctx : DeviceContext := { uuid := "h1", historyExecuted := false }
    ¬ AllOrNothing ctx s "aabbccddeeff" "r2" "t" "gw"
      (DevicesDB.attemptDeviceRevision .sqlite {} ctx {} s "aabbccddeeff" "r2" "t" "gw") := by
  -- The insertion is refused, and the update is executed.
  intro s ctx all
  have changes : Changes {} s "aabbccddeeff" "r2" := ⟨rfl, _, rfl, by decide⟩
  exact absurd ((allOrNothing_iff.mp all changes).mpr rfl).1 (by decide)

end Fms
