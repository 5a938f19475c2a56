import Fms.Devices.DevicesDb
import Fms.Relation.Run
import Mathlib.Data.List.Induction

/-! The history of a device is an unbroken chain from its first revision to its current one. -/

namespace Fms

/-- The calls that change the device tables, without deletions. -/
inductive DeviceCall where
  | setRevision (c : Catalogue) (ctx : DeviceContext)
      (serialNumber revision deviceType endPoint : String)
  | setDisconnected (serialNumber endPoint : String)

/-- The device a call is about. -/
def DeviceCall.serialNumber : DeviceCall → String
  | setRevision _ _ serialNumber _ _ _ => serialNumber
  | setDisconnected serialNumber _ => serialNumber

/-- The tables after a call. -/
def deviceStep (type : DBType) (s : DeviceTables) : DeviceCall → DeviceTables
  | .setRevision c ctx serialNumber revision deviceType endPoint =>
    (DevicesDB.setDeviceRevision type c ctx s serialNumber revision deviceType endPoint).2
  | .setDisconnected serialNumber endPoint =>
    (DevicesDB.setDeviceDisconnected s serialNumber endPoint).2

/-- The statements of a call are executed, and an id it generates is new to the history. -/
def Executes (s : DeviceTables) : DeviceCall → Prop
  | .setRevision _ ctx .. => ctx.historyExecuted = true ∧ ctx.deviceExecuted = true ∧
    ∀ entry ∈ s.history.rows, entry.id ≠ ctx.uuid
  | .setDisconnected .. => True

instance (s : DeviceTables) : ∀ call : DeviceCall, Decidable (Executes s call)
  | .setRevision _ ctx .. => inferInstanceAs (Decidable (ctx.historyExecuted = true ∧
    ctx.deviceExecuted = true ∧ ∀ entry ∈ s.history.rows, entry.id ≠ ctx.uuid))
  | .setDisconnected .. => isTrue trivial

/-- The rows of a device. -/
def devicesOf (s : DeviceTables) (serialNumber : String) : List DeviceConnectionInformation :=
  s.devices.rows.filter fun row => decide (row.serialNumber = serialNumber)

/-- The history of a device, in the order of its creation. -/
def historyOf (s : DeviceTables) (serialNumber : String) : List RevisionHistoryEntry :=
  s.history.rows.filter fun entry => decide (entry.serialNumber = serialNumber)

/-- The revisions reported for a device, in order. -/
def reported (serialNumber : String) (calls : List DeviceCall) : List String :=
  calls.filterMap fun
    | .setRevision _ _ serial revision _ _ => if serial = serialNumber then some revision else none
    | .setDisconnected .. => none

/--
Entries that lead from one revision to another without a gap.

Each one changes the revision, starts where the one before it ended, and the last one ends at the
current revision.
-/
def Unbroken : String → List RevisionHistoryEntry → String → Prop
  | first, [], current => current = first
  | first, entry :: rest, current =>
    entry.fromRelease = first ∧ entry.fromRelease ≠ entry.toRelease ∧
      Unbroken entry.toRelease rest current

/-- One more change of the revision prolongs the chain. -/
theorem unbroken_append {first current : String} {entries : List RevisionHistoryEntry}
    (chain : Unbroken first entries current) {entry : RevisionHistoryEntry}
    (starts : entry.fromRelease = current) (changes : entry.fromRelease ≠ entry.toRelease) :
    Unbroken first (entries ++ [entry]) entry.toRelease := by
  induction entries generalizing first with
  | nil =>
    -- The chain was empty, so the entry starts at the first revision.
    have start : current = first := chain
    exact ⟨starts.trans start, changes, rfl⟩
  | cons head rest ih =>
    obtain ⟨begins, moves, tail⟩ := chain
    exact ⟨begins, moves, ih tail⟩

/-- The rows of a device are the row a lookup by its serial number finds. -/
theorem devicesOf_eq (s : DeviceTables) (serialNumber : String) :
    devicesOf s serialNumber = (s.devices.lookup serialNumber).toList :=
  KeyedTable.filter_key s.devices serialNumber

/-- The row a call leaves of the device it sets a revision of. -/
def connectedRow (now : UInt64) (before : Option DeviceConnectionInformation)
    (serialNumber revision deviceType endPoint : String) : DeviceConnectionInformation :=
  { serialNumber := serialNumber
    revision := revision
    deviceType := deviceType
    endPoint := endPoint
    lastUpdate := (before.map DeviceConnectionInformation.lastUpdate).getD now
    status := "connected" }

variable {type : DBType} {c : Catalogue} {ctx : DeviceContext} {s : DeviceTables}

/-- Setting the revision of a known device writes its row, whether insertions are executed or not. -/
theorem lookup_setDeviceRevision_of_stored {serialNumber : String} {D : DeviceConnectionInformation}
    (found : s.devices.lookup serialNumber = some D) (revision deviceType endPoint other : String) :
    (DevicesDB.setDeviceRevision type c ctx s serialNumber revision deviceType endPoint).2.devices.lookup
        other =
      if other = serialNumber then
        some (connectedRow ctx.now (some D) serialNumber revision deviceType endPoint)
      else s.devices.lookup other := by
  -- The new row has the key of the stored one, so it takes its place.
  have named : D.serialNumber = serialNumber := (KeyedTable.lookup_eq_some.mp found).2
  subst named
  rw [DevicesDB.setDeviceRevision, Orm.getRecord, found]
  obtain ⟨_, written⟩ := Orm.updateRecord_of_lookup found
    (connectedRow ctx.now (some D) D.serialNumber revision deviceType endPoint) rfl
  exact written other

/-- Setting a revision writes the row of its device, and no other one. -/
theorem lookup_setDeviceRevision (executed : ctx.deviceExecuted = true)
    (serialNumber revision deviceType endPoint other : String) :
    (DevicesDB.setDeviceRevision type c ctx s serialNumber revision deviceType endPoint).2.devices.lookup
        other =
      if other = serialNumber then some (connectedRow ctx.now (s.devices.lookup serialNumber)
        serialNumber revision deviceType endPoint)
      else s.devices.lookup other := by
  -- A known device is updated, and an unknown one gets a row.
  cases found : s.devices.lookup serialNumber with
  | some D => exact lookup_setDeviceRevision_of_stored found revision deviceType endPoint other
  | none =>
    rw [DevicesDB.setDeviceRevision, Orm.getRecord, found, executed]
    obtain ⟨_, written⟩ := Orm.createRecord_of_lookup s.devices
      (connectedRow ctx.now none serialNumber revision deviceType endPoint) found
    exact written other

/-- Without its insertion, setting the revision of an unknown device leaves all rows. -/
theorem lookup_setDeviceRevision_refused (refused : ctx.deviceExecuted = false)
    {serialNumber : String} (found : s.devices.lookup serialNumber = none)
    (revision deviceType endPoint other : String) :
    (DevicesDB.setDeviceRevision type c ctx s serialNumber revision deviceType endPoint).2.devices.lookup
        other = s.devices.lookup other := by
  -- The refused insertion is all that would have changed a row.
  rw [DevicesDB.setDeviceRevision, Orm.getRecord, found, refused]
  rfl

/-- A row that is there after setting the revision of its device has that revision. -/
theorem revision_setDeviceRevision {serialNumber revision deviceType endPoint : String}
    {row : DeviceConnectionInformation}
    (found : (DevicesDB.setDeviceRevision type c ctx s serialNumber revision deviceType
      endPoint).2.devices.lookup serialNumber = some row) : row.revision = revision := by
  -- The row was updated or created by the call, and both write the revision.
  cases before : s.devices.lookup serialNumber with
  | some D =>
    rw [lookup_setDeviceRevision_of_stored before, if_pos rfl] at found
    rw [← Option.some.inj found, connectedRow]
  | none =>
    cases executed : ctx.deviceExecuted with
    | true =>
      rw [lookup_setDeviceRevision executed, if_pos rfl] at found
      rw [← Option.some.inj found, connectedRow]
    | false =>
      rw [lookup_setDeviceRevision_refused executed before, before] at found
      contradiction

/-- The entry a call adds when it changes the revision of a known device. -/
def historyEntry (type : DBType) (c : Catalogue) (ctx : DeviceContext)
    (serialNumber deviceType previousRevision newVersion : String) : RevisionHistoryEntry where
  id := ctx.uuid
  serialNumber := serialNumber
  fromRelease := previousRevision
  toRelease := newVersion
  commandUUID := ""
  revisionId :=
    match FirmwaresDB.getFirmwareByRevision type c newVersion deviceType with
    | some F => F.id
    | none => "unknown"
  upgraded := ctx.now

/-- Setting a revision adds to the history exactly when it changes the revision of a known device. -/
theorem history_setDeviceRevision (executed : ctx.historyExecuted = true)
    (new : ∀ entry ∈ s.history.rows, entry.id ≠ ctx.uuid)
    (serialNumber revision deviceType endPoint : String) :
    (DevicesDB.setDeviceRevision type c ctx s serialNumber revision deviceType endPoint).2.history.rows =
      match s.devices.lookup serialNumber with
      | some D =>
        if D.revision ≠ revision then
          s.history.rows ++ [historyEntry type c ctx serialNumber deviceType D.revision revision]
        else s.history.rows
      | none => s.history.rows := by
  unfold DevicesDB.setDeviceRevision Orm.getRecord
  cases found : s.devices.lookup serialNumber with
  | some D =>
    obtain ⟨grown, created, rows⟩ := Orm.createRecord_of_fresh (t := s.history)
      (historyEntry type c ctx serialNumber deviceType D.revision revision) new
    have added : HistoryDB.addHistory type c ctx s.history serialNumber deviceType D.revision
        revision = (true, grown) := by
      rw [HistoryDB.addHistory, executed]
      exact created
    -- The same revision again adds nothing.
    by_cases changed : D.revision ≠ revision
    · simp only [if_pos changed, added, rows]
    · simp only [if_neg changed]
  | none => rfl

/-- Disconnecting a device keeps its revision, and writes no other row. -/
theorem lookup_setDeviceDisconnected (s : DeviceTables) (serialNumber endPoint other : String) :
    (DevicesDB.setDeviceDisconnected s serialNumber endPoint).2.devices.lookup other =
      if other = serialNumber then
        (s.devices.lookup serialNumber).map fun D => { D with status := "not connected", endPoint }
      else s.devices.lookup other := by
  unfold DevicesDB.setDeviceDisconnected Orm.getRecord
  cases found : s.devices.lookup serialNumber with
  | some D =>
    have named : D.serialNumber = serialNumber := (KeyedTable.lookup_eq_some.mp found).2
    obtain ⟨_, written⟩ := Orm.updateRecord_of_lookup found
      { D with status := "not connected", endPoint } named
    exact written other
  | none =>
    -- An unknown device stays unknown.
    by_cases same : other = serialNumber
    · rw [if_pos same, same, found, Option.map_none]
    · rw [if_neg same]

/-- Disconnecting a device adds nothing to the history. -/
theorem history_setDeviceDisconnected (s : DeviceTables) (serialNumber endPoint : String) :
    (DevicesDB.setDeviceDisconnected s serialNumber endPoint).2.history = s.history := by
  -- Disconnecting writes to the other table only.
  unfold DevicesDB.setDeviceDisconnected
  cases Orm.getRecord s.devices serialNumber <;> rfl

/-- A call adds nothing to the history, or one entry of its own device. -/
theorem history_deviceStep (type : DBType) (s : DeviceTables) (call : DeviceCall) :
    (deviceStep type s call).history.rows = s.history.rows ∨
      ∃ entry : RevisionHistoryEntry, entry.serialNumber = call.serialNumber ∧
        (deviceStep type s call).history.rows = s.history.rows ++ [entry] := by
  cases call with
  | setDisconnected serialNumber endPoint =>
    exact Or.inl (by rw [deviceStep, history_setDeviceDisconnected])
  | setRevision c ctx serialNumber revision deviceType endPoint =>
    simp only [deviceStep, DevicesDB.setDeviceRevision]
    cases Orm.getRecord s.devices serialNumber with
    | none => exact Or.inl rfl
    | some D =>
      -- An entry is added only for a changed revision.
      by_cases changed : D.revision ≠ revision
      · simp only [if_pos changed]
        -- The insertion appends the entry, or it fails and nobody notices.
        rcases Orm.createRecord_cases ctx.historyExecuted s.history
          (historyEntry type c ctx serialNumber deviceType D.revision revision)
          with ⟨_, added, _⟩ | refused
        · exact Or.inr ⟨historyEntry type c ctx serialNumber deviceType D.revision revision, rfl,
            added⟩
        · exact Or.inl (congrArg (fun outcome => outcome.2.rows) refused)
      · refine Or.inl ?_
        simp only [if_neg changed]

/-- A call changes no row of another device. -/
theorem lookup_deviceStep (type : DBType) (s : DeviceTables) (call : DeviceCall) {other : String}
    (apart : call.serialNumber ≠ other) :
    (deviceStep type s call).devices.lookup other = s.devices.lookup other := by
  cases call with
  | setDisconnected serialNumber endPoint =>
    have own : other ≠ serialNumber := Ne.symm apart
    rw [deviceStep, lookup_setDeviceDisconnected, if_neg own]
  | setRevision c ctx serialNumber revision deviceType endPoint =>
    have own : other ≠ serialNumber := Ne.symm apart
    -- Whether a new row is created or not, it is the row of the device of the call.
    cases executed : ctx.deviceExecuted with
    | true => rw [deviceStep, lookup_setDeviceRevision executed, if_neg own]
    | false =>
      rw [deviceStep]
      cases found : s.devices.lookup serialNumber with
      | some D => rw [lookup_setDeviceRevision_of_stored found, if_neg own]
      | none => exact lookup_setDeviceRevision_refused executed found revision deviceType endPoint other

/-- A call changes neither the rows nor the history of another device. -/
theorem frame_deviceStep (type : DBType) (s : DeviceTables) (call : DeviceCall) {other : String}
    (apart : call.serialNumber ≠ other) :
    devicesOf (deviceStep type s call) other = devicesOf s other ∧
      historyOf (deviceStep type s call) other = historyOf s other := by
  -- The row is found by the key, the history by the column.
  constructor
  · rw [devicesOf_eq, devicesOf_eq, lookup_deviceStep type s call apart]
  · rcases history_deviceStep type s call with same | ⟨entry, named, added⟩
    · rw [historyOf, same, historyOf]
    · -- The entry belongs to the device of the call.
      have dropped : decide (entry.serialNumber = other) = false :=
        decide_eq_false (named ▸ apart)
      rw [historyOf, added, List.filter_append, List.filter_singleton, dropped, cond_false,
        List.append_nil, historyOf]

/--
The rows of a device after some revisions have been reported for it.

Without a report there are none. Else there is one device row, and the history leads from the first
reported revision to the revision in that row.
-/
def Tracks (serialNumber : String) (revisions : List String) (s : DeviceTables) : Prop :=
  match revisions with
  | [] => devicesOf s serialNumber = [] ∧ historyOf s serialNumber = []
  | first :: _ => ∃ row, devicesOf s serialNumber = [row] ∧
    Unbroken first (historyOf s serialNumber) row.revision

/-- The reports of a longer run are those of its parts. -/
theorem reported_append (serialNumber : String) (front back : List DeviceCall) :
    reported serialNumber (front ++ back) =
      reported serialNumber front ++ reported serialNumber back := by
  -- Collecting goes through the calls one by one.
  rw [reported, List.filterMap_append, reported, reported]

/-- Disconnecting a device keeps its chain. -/
theorem tracks_setDisconnected {serialNumber endPoint : String} {revisions : List String}
    (tracks : Tracks serialNumber revisions s) :
    Tracks serialNumber revisions (deviceStep type s (.setDisconnected serialNumber endPoint)) := by
  have devices := lookup_setDeviceDisconnected s serialNumber endPoint serialNumber
  have history := history_setDeviceDisconnected s serialNumber endPoint
  rw [if_pos rfl] at devices
  have entries : historyOf (deviceStep type s (.setDisconnected serialNumber endPoint))
      serialNumber = historyOf s serialNumber := by
    rw [historyOf, deviceStep, history, historyOf]
  -- A device without a report has no row to change.
  cases revisions with
  | nil =>
    obtain ⟨noRow, noEntry⟩ := tracks
    rw [devicesOf_eq, Option.toList_eq_nil_iff] at noRow
    refine ⟨?_, entries.trans noEntry⟩
    rw [devicesOf_eq, deviceStep, devices, noRow, Option.map_none, Option.toList_none]
  | cons first _ =>
    obtain ⟨row, one, chain⟩ := tracks
    rw [devicesOf_eq, Option.toList_eq_singleton_iff] at one
    refine ⟨{ row with status := "not connected", endPoint }, ?_, ?_⟩
    · rw [devicesOf_eq, deviceStep, devices, one, Option.map_some, Option.toList_some]
    · rw [entries]
      exact chain

/-- Reporting a revision starts the chain of a device or prolongs it. -/
theorem tracks_setRevision {serialNumber revision deviceType endPoint : String}
    {revisions : List String}
    (executes : Executes s (.setRevision c ctx serialNumber revision deviceType endPoint))
    (tracks : Tracks serialNumber revisions s) :
    Tracks serialNumber (revisions ++ [revision])
      (deviceStep type s (.setRevision c ctx serialNumber revision deviceType endPoint)) := by
  obtain ⟨historyExecuted, deviceExecuted, new⟩ := executes
  have devices : (deviceStep type s (.setRevision c ctx serialNumber revision deviceType
      endPoint)).devices.lookup serialNumber = _ :=
    lookup_setDeviceRevision deviceExecuted serialNumber revision deviceType endPoint serialNumber
  have history : (deviceStep type s (.setRevision c ctx serialNumber revision deviceType
      endPoint)).history.rows = _ :=
    history_setDeviceRevision historyExecuted new serialNumber revision deviceType endPoint
  rw [if_pos rfl] at devices
  -- The report is the first one of the device, or it goes on from its row.
  cases revisions with
  | nil =>
    obtain ⟨noRow, noEntry⟩ := tracks
    rw [devicesOf_eq, Option.toList_eq_nil_iff] at noRow
    rw [noRow] at devices history
    -- The first report creates the row, and the chain is empty.
    refine ⟨_, by rw [devicesOf_eq, devices, Option.toList_some], ?_⟩
    have entries : historyOf (deviceStep type s
        (.setRevision c ctx serialNumber revision deviceType endPoint)) serialNumber = [] := by
      rw [historyOf, history]
      exact noEntry
    rw [entries]
    rfl
  | cons first _ =>
    obtain ⟨row, one, chain⟩ := tracks
    rw [devicesOf_eq, Option.toList_eq_singleton_iff] at one
    rw [one] at devices history
    refine ⟨_, by rw [devicesOf_eq, devices, Option.toList_some], ?_⟩
    by_cases changed : row.revision ≠ revision
    · -- The new entry starts at the revision of the row before.
      have entries : historyOf (deviceStep type s
          (.setRevision c ctx serialNumber revision deviceType endPoint)) serialNumber =
          historyOf s serialNumber ++
            [historyEntry type c ctx serialNumber deviceType row.revision revision] := by
        rw [historyOf, history]
        simp only [if_pos changed]
        rw [List.filter_append, historyOf]
        simp [historyEntry]
      rw [entries]
      exact unbroken_append chain rfl changed
    · have entries : historyOf (deviceStep type s
          (.setRevision c ctx serialNumber revision deviceType endPoint)) serialNumber =
          historyOf s serialNumber := by
        rw [historyOf, history]
        simp only [if_neg changed]
        rfl
      rw [entries]
      have same : row.revision = revision := not_not.mp changed
      exact same ▸ chain

/-- A call keeps track of every device, its own and the others. -/
theorem tracks_deviceStep {serialNumber : String} {revisions : List String} {call : DeviceCall}
    (executes : Executes s call) (tracks : Tracks serialNumber revisions s) :
    Tracks serialNumber (revisions ++ reported serialNumber [call]) (deviceStep type s call) := by
  -- A call for the device itself prolongs its chain, and any other one leaves it.
  by_cases own : call.serialNumber = serialNumber
  · subst own
    cases call with
    | setRevision c ctx serial revision deviceType endPoint =>
      have report : reported serial [.setRevision c ctx serial revision deviceType endPoint] =
          [revision] := by simp [reported]
      simp only [DeviceCall.serialNumber] at tracks ⊢
      rw [report]
      exact tracks_setRevision executes tracks
    | setDisconnected serial endPoint =>
      have report : reported serial [.setDisconnected serial endPoint] = [] := rfl
      simp only [DeviceCall.serialNumber] at tracks ⊢
      rw [report, List.append_nil]
      exact tracks_setDisconnected tracks
  · have report : reported serialNumber [call] = [] := by
      cases call with
      | setRevision c ctx serial revision deviceType endPoint =>
        have other : serial ≠ serialNumber := own
        simp [reported, other]
      | setDisconnected serial endPoint => rfl
    obtain ⟨devices, history⟩ := frame_deviceStep type s call own
    rw [report, List.append_nil]
    unfold Tracks at tracks ⊢
    rw [devices, history]
    exact tracks

/--
In every run of reports and disconnections the history of each device is an unbroken chain.

It leads from the first revision reported to the one in the only row of the device, and a call for
one device changes nothing of another.
-/
theorem history_unbroken (type : DBType) (calls : List DeviceCall)
    (executes : Transition.Along (deviceStep type) Executes {} calls) (serialNumber : String) :
    Tracks serialNumber (reported serialNumber calls) (calls.foldl (deviceStep type) {}) ∧
      ∀ (s : DeviceTables) (call : DeviceCall), call.serialNumber ≠ serialNumber →
        devicesOf (deviceStep type s call) serialNumber = devicesOf s serialNumber ∧
          historyOf (deviceStep type s call) serialNumber = historyOf s serialNumber := by
  refine ⟨?_, fun s call apart => frame_deviceStep type s call apart⟩
  -- The induction follows the run; the last call prolongs what the calls before it left.
  induction calls using List.reverseRecOn with
  | nil => exact ⟨rfl, rfl⟩
  | append_singleton before call ih =>
    obtain ⟨earlier, last⟩ := Transition.along_append.mp executes
    rw [List.foldl_append, reported_append]
    exact tracks_deviceStep last.1 (ih earlier)

/-- A device that reports two revisions and disconnects, with another device in between. -/
def twoDevices : List DeviceCall :=
  [.setRevision {} { uuid := "a" } "903cb3000001" "r1" "eap101" "gw",
    .setRevision {} { uuid := "b" } "903cb3000002" "r1" "eap101" "gw",
    .setRevision {} { uuid := "c" } "903cb3000001" "r2" "eap101" "gw",
    .setDisconnected "903cb3000001" "gw"]

/-- The history of that device leads from its first revision to its second. -/
theorem history_twoDevices :
    Tracks "903cb3000001" ["r1", "r2"] (twoDevices.foldl (deviceStep .sqlite) {}) :=
  (history_unbroken .sqlite twoDevices (by decide +kernel) "903cb3000001").1

end Fms
