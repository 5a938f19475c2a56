import Fms.Devices.History

/-! Each row of the devices table against the last calls about its device. -/

namespace Fms

/-- What a call of `SetDeviceRevision` reports about a device. -/
structure RevisionReport where
  revision : String
  deviceType : String
  time : UInt64
  deriving DecidableEq, Repr

/-- What a call of either kind tells about the connection of a device. -/
structure Contact where
  endPoint : String
  status : String
  deriving DecidableEq, Repr

/-- The revisions reported for a device, with their types and times, in order. -/
def reportsOf (serialNumber : String) (calls : List DeviceCall) : List RevisionReport :=
  calls.filterMap fun
    | .setRevision _ ctx serial revision deviceType _ =>
      if serial = serialNumber then some { revision, deviceType, time := ctx.now } else none
    | .setDisconnected .. => none

/-- The contacts with a device, in order. -/
def contactsOf (serialNumber : String) (calls : List DeviceCall) : List Contact :=
  calls.filterMap fun
    | .setRevision _ _ serial _ _ endPoint =>
      if serial = serialNumber then some { endPoint, status := "connected" } else none
    | .setDisconnected serial endPoint =>
      if serial = serialNumber then some { endPoint, status := "not connected" } else none

/--
The row of a device as its last calls describe it.

The last report gives the revision, the type and the time, and the last contact gives the rest.
Without a report there is no row.
-/
def projection (serialNumber : String) (calls : List DeviceCall) :
    Option DeviceConnectionInformation := do
  let report ← (reportsOf serialNumber calls).getLast?
  let contact ← (contactsOf serialNumber calls).getLast?
  return {
    serialNumber := serialNumber
    revision := report.revision
    deviceType := report.deviceType
    endPoint := contact.endPoint
    lastUpdate := report.time
    status := contact.status }

/-- The row of each device is the one that its last calls describe, and there are no others. -/
def Projects (calls : List DeviceCall) (s : DeviceTables) : Prop :=
  ∀ serialNumber, devicesOf s serialNumber = (projection serialNumber calls).toList

/-- The row that the calls leave of a device: its time stays that of the first report. -/
def storedRow (serialNumber : String) (calls : List DeviceCall) :
    Option DeviceConnectionInformation := do
  let first ← (reportsOf serialNumber calls).head?
  let row ← projection serialNumber calls
  return { row with lastUpdate := first.time }

/-- The database executes the insertion of a call. -/
def DeviceCall.Inserts : DeviceCall → Prop
  | .setRevision _ ctx .. => ctx.deviceExecuted = true
  | .setDisconnected .. => True

/-- All the reports about a device come at one time. -/
def ReportedAtOnce (serialNumber : String) (calls : List DeviceCall) : Prop :=
  ∀ report ∈ reportsOf serialNumber calls, ∀ other ∈ reportsOf serialNumber calls,
    report.time = other.time

variable {type : DBType} {serialNumber : String} {calls : List DeviceCall} {call : DeviceCall}

/-- The reports of a longer run are those of its parts. -/
theorem reportsOf_append (serialNumber : String) (front back : List DeviceCall) :
    reportsOf serialNumber (front ++ back) =
      reportsOf serialNumber front ++ reportsOf serialNumber back := by
  -- Collecting goes through the calls one by one.
  rw [reportsOf, List.filterMap_append, reportsOf, reportsOf]

/-- The contacts of a longer run are those of its parts. -/
theorem contactsOf_append (serialNumber : String) (front back : List DeviceCall) :
    contactsOf serialNumber (front ++ back) =
      contactsOf serialNumber front ++ contactsOf serialNumber back := by
  -- So do the contacts.
  rw [contactsOf, List.filterMap_append, contactsOf, contactsOf]

/-- A call about another device neither reports about a device nor contacts it. -/
theorem reportsOf_other (apart : call.serialNumber ≠ serialNumber) :
    reportsOf serialNumber [call] = [] ∧ contactsOf serialNumber [call] = [] := by
  -- Both lists go by the serial number of the call.
  cases call with
  | setRevision c ctx serial revision deviceType endPoint =>
    have other : serial ≠ serialNumber := apart
    simp [reportsOf, contactsOf, other]
  | setDisconnected serial endPoint =>
    have other : serial ≠ serialNumber := apart
    simp [reportsOf, contactsOf, other]

/-- A device that has been reported has been contacted. -/
theorem contactsOf_ne_nil (reported : reportsOf serialNumber calls ≠ []) :
    contactsOf serialNumber calls ≠ [] := by
  -- The call behind a report is the one behind a contact.
  obtain ⟨report, member⟩ := List.exists_mem_of_ne_nil _ reported
  obtain ⟨call, called, reports⟩ := List.mem_filterMap.mp member
  cases call with
  | setDisconnected serial endPoint => exact absurd reports (by simp)
  | setRevision c ctx serial revision deviceType endPoint =>
    have own : serial = serialNumber := by
      by_contra other
      simp [other] at reports
    apply List.ne_nil_of_mem
    exact List.mem_filterMap.mpr ⟨_, called, if_pos own⟩

/-- There is a projected row as soon as there is a report. -/
theorem projection_of_last {last : RevisionReport}
    (reported : (reportsOf serialNumber calls).getLast? = some last) :
    ∃ row, projection serialNumber calls = some row ∧ row.lastUpdate = last.time := by
  -- The report is also a contact, so there is a last contact.
  have contacted : contactsOf serialNumber calls ≠ [] := contactsOf_ne_nil fun none_ => by
    simp [none_] at reported
  have contact := List.getLast?_eq_some_getLast contacted
  exact ⟨_, by rw [projection, reported, contact]; rfl, rfl⟩

/-- A call about another device leaves the projected and the stored row of a device. -/
theorem storedRow_other (apart : call.serialNumber ≠ serialNumber) :
    projection serialNumber (calls ++ [call]) = projection serialNumber calls ∧
      storedRow serialNumber (calls ++ [call]) = storedRow serialNumber calls := by
  -- Neither list of the device grows.
  obtain ⟨noReport, noContact⟩ := reportsOf_other apart
  have same : projection serialNumber (calls ++ [call]) = projection serialNumber calls := by
    rw [projection, reportsOf_append, contactsOf_append, noReport, noContact, List.append_nil,
      List.append_nil, projection]
  refine ⟨same, ?_⟩
  rw [storedRow, same, reportsOf_append, noReport, List.append_nil, storedRow]

/-- After a report the projected row has the values of the report. -/
theorem projection_setRevision (serialNumber : String) (calls : List DeviceCall) (c : Catalogue)
    (ctx : DeviceContext) (revision deviceType endPoint : String) :
    reportsOf serialNumber (calls ++ [.setRevision c ctx serialNumber revision deviceType endPoint]) =
        reportsOf serialNumber calls ++ [⟨revision, deviceType, ctx.now⟩] ∧
      projection serialNumber
          (calls ++ [.setRevision c ctx serialNumber revision deviceType endPoint]) =
        some (connectedRow ctx.now none serialNumber revision deviceType endPoint) := by
  -- The call is the last report and the last contact.
  have report : reportsOf serialNumber [.setRevision c ctx serialNumber revision deviceType
      endPoint] = [⟨revision, deviceType, ctx.now⟩] := by simp [reportsOf]
  have contact : contactsOf serialNumber [.setRevision c ctx serialNumber revision deviceType
      endPoint] = [⟨endPoint, "connected"⟩] := by simp [contactsOf]
  constructor
  · rw [reportsOf_append, report]
  · simp [projection, reportsOf_append, contactsOf_append, report, contact, connectedRow]

/-- After a report the stored row is the projected one, except for the time of an earlier row. -/
theorem storedRow_setRevision (c : Catalogue) (ctx : DeviceContext)
    (revision deviceType endPoint : String) :
    storedRow serialNumber (calls ++ [.setRevision c ctx serialNumber revision deviceType endPoint]) =
      some (connectedRow ctx.now (storedRow serialNumber calls) serialNumber revision deviceType
        endPoint) := by
  obtain ⟨reports, projected⟩ :=
    projection_setRevision serialNumber calls c ctx revision deviceType endPoint
  rw [storedRow, projected, reports, storedRow]
  -- The first report is an earlier one, or this is the first.
  cases earlier : reportsOf serialNumber calls with
  | nil => simp [connectedRow]
  | cons first rest =>
    have last : (reportsOf serialNumber calls).getLast? = some _ :=
      List.getLast?_eq_some_getLast (by simp [earlier])
    obtain ⟨row, before, _⟩ := projection_of_last last
    simp [before, connectedRow]

/-- A disconnection changes the status and the endpoint of the projected and the stored row. -/
theorem storedRow_setDisconnected (endPoint : String) :
    projection serialNumber (calls ++ [.setDisconnected serialNumber endPoint]) =
        (projection serialNumber calls).map
          (fun D => { D with status := "not connected", endPoint }) ∧
      storedRow serialNumber (calls ++ [.setDisconnected serialNumber endPoint]) =
        (storedRow serialNumber calls).map
          fun D => { D with status := "not connected", endPoint } := by
  have report : reportsOf serialNumber [.setDisconnected serialNumber endPoint] = [] := rfl
  have contact : contactsOf serialNumber [.setDisconnected serialNumber endPoint] =
      [⟨endPoint, "not connected"⟩] := by simp [contactsOf]
  have projected : projection serialNumber (calls ++ [.setDisconnected serialNumber endPoint]) =
      (projection serialNumber calls).map
        (fun D => { D with status := "not connected", endPoint }) := by
    -- Without a report there is no row, and with one there is an earlier contact.
    cases last : (reportsOf serialNumber calls).getLast? with
    | none => simp [projection, reportsOf_append, report, last]
    | some reported =>
      have contacted : contactsOf serialNumber calls ≠ [] := contactsOf_ne_nil fun none_ => by
        simp [none_] at last
      simp [projection, reportsOf_append, contactsOf_append, report, contact, last,
        List.getLast?_eq_some_getLast contacted]
  refine ⟨projected, ?_⟩
  rw [storedRow, projected, reportsOf_append, report, List.append_nil, storedRow]
  cases (reportsOf serialNumber calls).head? with
  | none => rfl
  | some first => cases projection serialNumber calls <;> rfl

/-- The calls leave exactly the stored rows. -/
theorem lookup_foldl (inserts : ∀ call ∈ calls, call.Inserts) (serialNumber : String) :
    (calls.foldl (deviceStep type) {}).devices.lookup serialNumber =
      storedRow serialNumber calls := by
  -- The last call works on what the calls before it left.
  induction calls using List.reverseRecOn with
  | nil => rfl
  | append_singleton before call ih =>
    have earlier := ih fun other member => inserts other (List.mem_append_left _ member)
    rw [List.foldl_append, List.foldl_cons, List.foldl_nil]
    by_cases own : call.serialNumber = serialNumber
    · subst own
      cases call with
      | setRevision c ctx serial revision deviceType endPoint =>
        have executed : ctx.deviceExecuted = true :=
          inserts _ (List.mem_append_right _ List.mem_cons_self)
        simp only [DeviceCall.serialNumber] at earlier ⊢
        rw [deviceStep, lookup_setDeviceRevision executed, if_pos rfl, earlier,
          storedRow_setRevision]
      | setDisconnected serial endPoint =>
        simp only [DeviceCall.serialNumber] at earlier ⊢
        rw [deviceStep, lookup_setDeviceDisconnected, if_pos rfl, earlier,
          (storedRow_setDisconnected endPoint).2]
    · rw [lookup_deviceStep type _ call own, earlier, (storedRow_other own).2]

/-- The stored row is the projected one exactly when the first report is as old as the last. -/
theorem storedRow_eq_iff :
    storedRow serialNumber calls = projection serialNumber calls ↔
      ∀ first ∈ (reportsOf serialNumber calls).head?,
        ∀ last ∈ (reportsOf serialNumber calls).getLast?, first.time = last.time := by
  -- Without a report neither row exists.
  cases reports : reportsOf serialNumber calls with
  | nil => simp [storedRow, projection, reports]
  | cons first rest =>
    have last : (reportsOf serialNumber calls).getLast? = some _ :=
      List.getLast?_eq_some_getLast (by simp [reports])
    obtain ⟨row, projected, time⟩ := projection_of_last last
    -- Only the times of the two rows can differ.
    have differ : ({ row with lastUpdate := first.time } = row) ↔ first.time = row.lastUpdate := by
      constructor
      · intro same
        rw [← same]
      · intro same
        rw [same]
    simp only [storedRow, projected, reports, List.head?_cons, Option.bind_eq_bind,
      Option.bind_some, Option.pure_def, Option.some.injEq, differ, time, Option.mem_def,
      List.getLast?_eq_some_getLast (List.cons_ne_nil first rest)]
    simp [eq_comm]

/-- Every report about a device is the last one of the calls up to it. -/
theorem exists_last_report {report : RevisionReport}
    (member : report ∈ reportsOf serialNumber calls) :
    ∃ before, before <+: calls ∧ (reportsOf serialNumber before).getLast? = some report ∧
      (reportsOf serialNumber before).head? = (reportsOf serialNumber calls).head? := by
  -- The calls are cut right behind the one that makes the report.
  obtain ⟨earlier, later, split⟩ := List.append_of_mem member
  have cut : reportsOf serialNumber calls = (earlier ++ [report]) ++ later := by
    rw [split, List.append_assoc, List.singleton_append]
  obtain ⟨before, after, calls_, reports, _⟩ := List.filterMap_eq_append_iff.mp cut
  have reports : reportsOf serialNumber before = earlier ++ [report] := reports
  refine ⟨before, ⟨after, calls_.symm⟩, by rw [reports, List.getLast?_concat], ?_⟩
  rw [reports, split]
  cases earlier <;> rfl

/-- After each call the first report is as old as the last, if and only if all are of one time. -/
theorem reportedAtOnce_iff :
    (∀ before, before <+: calls →
        storedRow serialNumber before = projection serialNumber before) ↔
      ReportedAtOnce serialNumber calls := by
  constructor
  · intro rows report member other member'
    -- Both reports are as old as the first one.
    have asFirst : ∀ report ∈ reportsOf serialNumber calls,
        ∀ first ∈ (reportsOf serialNumber calls).head?, first.time = report.time := by
      intro report member first head
      obtain ⟨before, part, last, same⟩ := exists_last_report member
      exact storedRow_eq_iff.mp (rows before part) first (same ▸ head) report last
    have head := List.head?_eq_some_head (List.ne_nil_of_mem member)
    exact (asFirst report member _ head).symm.trans (asFirst other member' _ head)
  · rintro once before ⟨after, rfl⟩
    -- The reports made so far are among all of them.
    have among : ∀ report ∈ reportsOf serialNumber before,
        report ∈ reportsOf serialNumber (before ++ after) := fun report member => by
      rw [reportsOf_append]
      exact List.mem_append_left _ member
    apply storedRow_eq_iff.mpr
    intro first head last end_
    exact once first (among first (List.mem_of_mem_head? head)) last
      (among last (List.mem_of_mem_getLast? end_))

/--
After every call each row is the one its last calls describe, up to its time, which stays that of
the first report; so the rows are right exactly when all reports about a device come at one time.

A disconnection of a device without a row creates nothing, whatever is in the tables.
-/
theorem projects_iff_reportedAtOnce (type : DBType) (calls : List DeviceCall)
    (inserts : ∀ call ∈ calls, call.Inserts) :
    (∀ before, before <+: calls → ∀ serialNumber,
        devicesOf (before.foldl (deviceStep type) {}) serialNumber =
          (storedRow serialNumber before).toList) ∧
      ((∀ before, before <+: calls → Projects before (before.foldl (deviceStep type) {})) ↔
        ∀ serialNumber, ReportedAtOnce serialNumber calls) ∧
      ∀ (s : DeviceTables) (serialNumber endPoint : String), devicesOf s serialNumber = [] →
        DevicesDB.setDeviceDisconnected s serialNumber endPoint = (false, s) := by
  -- The stored rows are known for all prefixes, so only they and the projections are compared.
  have rows : ∀ before, before <+: calls → ∀ serialNumber,
      devicesOf (before.foldl (deviceStep type) {}) serialNumber =
        (storedRow serialNumber before).toList := by
    intro before part serialNumber
    rw [devicesOf_eq, lookup_foldl fun call member => inserts call (part.subset member)]
  refine ⟨rows, ?_, ?_⟩
  · have same_row (left right : Option DeviceConnectionInformation) :
        left.toList = right.toList ↔ left = right := by
      cases left <;> cases right <;> simp
    have same (before : List DeviceCall) (part : before <+: calls) :
        Projects before (before.foldl (deviceStep type) {}) ↔
          ∀ serialNumber, storedRow serialNumber before = projection serialNumber before := by
      simp only [Projects, rows before part, same_row]
    constructor
    · intro projects serialNumber
      exact reportedAtOnce_iff.mp fun before part =>
        (same before part).mp (projects before part) serialNumber
    · intro once before part
      exact (same before part).mpr fun serialNumber =>
        reportedAtOnce_iff.mpr (once serialNumber) before part
  · intro s serialNumber endPoint none_
    -- Without a row there is nothing to update.
    rw [devicesOf_eq, Option.toList_eq_nil_iff] at none_
    rw [DevicesDB.setDeviceDisconnected, Orm.getRecord, none_]

/-- Two devices that report at one time have the rows their last calls describe. -/
theorem projects_twoDevices : Projects twoDevices (twoDevices.foldl (deviceStep .sqlite) {}) := by
  have inserts : ∀ call ∈ twoDevices, call.Inserts := by simp [twoDevices, DeviceCall.Inserts]
  -- All times are those of the start of the clock.
  have timed : ∀ serialNumber, ∀ report ∈ reportsOf serialNumber twoDevices, report.time = 0 := by
    intro serialNumber report member
    obtain ⟨call, called, reports⟩ := List.mem_filterMap.mp member
    simp only [twoDevices, List.mem_cons, List.not_mem_nil, or_false] at called
    rcases called with rfl | rfl | rfl | rfl <;> grind
  exact (projects_iff_reportedAtOnce .sqlite twoDevices inserts).2.1.mpr
    (fun serialNumber report member other member' =>
      (timed serialNumber report member).trans (timed serialNumber other member').symm)
    twoDevices (List.prefix_refl twoDevices)

/-- The row of a device that reports again keeps the time of its first report. -/
theorem lastUpdate_of_first :
    ¬ ∀ (type : DBType) (calls : List DeviceCall), (∀ call ∈ calls, call.Inserts) →
      Projects calls (calls.foldl (deviceStep type) {}) := by
  -- The two reports are a minute apart.
  intro projects
  have rows := projects .sqlite
    [.setRevision {} { uuid := "a", now := 1700000000 } "903cb3000001" "r1" "eap101" "gw",
      .setRevision {} { uuid := "b", now := 1700000060 } "903cb3000001" "r1" "eap101" "gw"]
    (by simp [DeviceCall.Inserts]) "903cb3000001"
  exact absurd rows (by decide +kernel)

end Fms
