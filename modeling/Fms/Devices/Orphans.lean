import Fms.Devices.Deletion
import Fms.Relation.Interleaving

/-! Reports and deletions, statement by statement, and the history they leave behind. -/

namespace Fms.DeviceThreads

/-- Where a thread stands in a call, with what it has read of the tables. -/
inductive Phase where
  | idle
  /-- `SetDeviceRevision` has found another revision, and `AddHistory` looks up the new one. -/
  | lookingUp (c : Catalogue) (ctx : DeviceContext) (D : DeviceConnectionInformation)
      (serialNumber revision deviceType endPoint : String)
  /-- The entry is about to be inserted, and then the row to be written. -/
  | inserting (executed : Bool) (entry : RevisionHistoryEntry) (serialNumber : String)
      (record : DeviceConnectionInformation)
  | updating (serialNumber : String) (record : DeviceConnectionInformation)
  | creating (executed : Bool) (record : DeviceConnectionInformation)
  /-- The history of a device has been deleted, and the device is next. -/
  | deleting (serialNumber : String)

/-- What a thread is told to do. -/
inductive Turn where
  /-- Begin a call of the connection thread. -/
  | call (call : DeviceCall)
  /-- Begin the deletion of a device. -/
  | delete (serialNumber : String)
  /-- Execute the next statement. -/
  | next

/-- The row `SetDeviceRevision` writes over the one it has read. -/
def connected (D : DeviceConnectionInformation) (revision deviceType endPoint : String) :
    DeviceConnectionInformation :=
  { D with
    revision := revision
    deviceType := deviceType
    endPoint := endPoint
    status := "connected" }

/-- One statement of a thread; a turn that does not fit its phase changes nothing. -/
def act (type : DBType) : Phase → DeviceTables → Turn → Phase × DeviceTables
  | .idle, s, .call (.setRevision c ctx serialNumber revision deviceType endPoint) =>
    match Orm.getRecord s.devices serialNumber with
    | some D =>
      if D.revision ≠ revision then
        (.lookingUp c ctx D serialNumber revision deviceType endPoint, s)
      else (.updating serialNumber (connected D revision deviceType endPoint), s)
    | none =>
      (.creating ctx.deviceExecuted {
        serialNumber := serialNumber
        revision := revision
        deviceType := deviceType
        endPoint := endPoint
        lastUpdate := ctx.now
        status := "connected" }, s)
  | .idle, s, .call (.setDisconnected serialNumber endPoint) =>
    match Orm.getRecord s.devices serialNumber with
    | some D =>
      (.updating serialNumber { D with
        status := "not connected"
        endPoint := endPoint }, s)
    | none => (.idle, s)
  | .idle, s, .delete serialNumber =>
    (.deleting serialNumber,
      { s with history := (HistoryDB.deleteHistory type s.history serialNumber).2 })
  | .lookingUp c ctx D serialNumber revision deviceType endPoint, s, .next =>
    (.inserting ctx.historyExecuted
      (historyEntry type c ctx serialNumber deviceType D.revision revision) serialNumber
      (connected D revision deviceType endPoint), s)
  | .inserting executed entry serialNumber record, s, .next =>
    (.updating serialNumber record,
      { s with history := (Orm.createRecord executed s.history entry).2 })
  | .updating serialNumber record, s, .next =>
    (.idle, { s with devices := (Orm.updateRecord s.devices serialNumber record).2 })
  | .creating executed record, s, .next =>
    (.idle, { s with devices := (Orm.createRecord executed s.devices record).2 })
  | .deleting serialNumber, s, .next =>
    (.idle, { s with devices := (DevicesDB.deleteDevice s.devices serialNumber).2 })
  | phase, s, _ => (phase, s)

/-- Threads over the device tables. -/
abbrev System (ι : Type) := Interleaving ι DeviceTables Phase

/-- Every history entry belongs to a stored device. -/
def NoOrphans (s : DeviceTables) : Prop :=
  ∀ entry ∈ s.history.rows, ∃ row ∈ s.devices.rows, row.serialNumber = entry.serialNumber

/--
A turn that cannot leave an orphan.

An entry is inserted only while its device is stored and no thread is halfway through deleting it. The
clause of a deletion selects all the entries of its device.
-/
def Guarded {ι : Type} (type : DBType) (s : System ι) (turn : ι × Turn) : Prop :=
  match s.threads turn.1, turn.2 with
  | .inserting _ entry _ _, .next =>
    (∃ row ∈ s.shared.devices.rows, row.serialNumber = entry.serialNumber) ∧
      ∀ other, s.threads other ≠ .deleting entry.serialNumber
  | .idle, .delete serialNumber => NewCommandHandler.ClauseSelects type s.shared serialNumber
  | _, _ => True

/--
The next statement of a thread leaves an orphan of a device, sooner or later.

It does so at once, or another thread is halfway through deleting the device and leaves it then.
-/
def LeavesOrphan {ι : Type} [DecidableEq ι] (type : DBType) (s : System ι) (thread : ι)
    (serialNumber : String) : Prop :=
  ¬ NoOrphans (Interleaving.step (act type) s (thread, .next)).shared ∨
    ∃ other, s.threads other = .deleting serialNumber ∧
      ¬ NoOrphans (Interleaving.step (act type)
        (Interleaving.step (act type) s (thread, .next)) (other, .next)).shared

/-- What a thread may rely on: a device it is halfway through deleting has no history. -/
def asserts : Phase → DeviceTables → Prop
  | .deleting serialNumber, s => ∀ entry ∈ s.history.rows, entry.serialNumber ≠ serialNumber
  | .updating serialNumber record, _ => record.serialNumber = serialNumber
  | .inserting _ _ serialNumber record, _ => record.serialNumber = serialNumber
  | .lookingUp _ _ D serialNumber .., _ => D.serialNumber = serialNumber
  | _, _ => True

variable {type : DBType}

/-- Without interruption, the statements of a call do what the call does. -/
theorem alone_call (type : DBType) (s : DeviceTables) (call : DeviceCall) :
    Interleaving.alone (act type) (.idle, s) [.call call, .next, .next, .next] =
      (.idle, deviceStep type s call) := by
  -- Each call is traced to its end, through every branch it can take.
  cases call with
  | setRevision c ctx serialNumber revision deviceType endPoint =>
    simp only [Interleaving.alone, List.foldl_cons, List.foldl_nil, act, deviceStep,
      DevicesDB.setDeviceRevision]
    cases found : Orm.getRecord s.devices serialNumber with
    | none => rfl
    | some D =>
      -- Only a changed revision takes the way through the history.
      by_cases changed : D.revision ≠ revision
      · simp only [if_pos changed]
        rfl
      · simp only [if_neg changed]
        rfl
  | setDisconnected serialNumber endPoint =>
    simp only [Interleaving.alone, List.foldl_cons, List.foldl_nil, act, deviceStep,
      DevicesDB.setDeviceDisconnected]
    cases Orm.getRecord s.devices serialNumber <;> rfl

/-- Without interruption, the two statements of a deletion remove the device. -/
theorem alone_delete (type : DBType) (s : DeviceTables) (serialNumber : String) :
    Interleaving.alone (act type) (.idle, s) [.delete serialNumber, .next] =
      (.idle, NewCommandHandler.removeDevice type s serialNumber) :=
  rfl

/-- Four turns in a row take an idle thread through a call, and two take it through a deletion. -/
theorem shared_uninterrupted {ι : Type} [DecidableEq ι] {s : System ι} {thread : ι}
    (idle : s.threads thread = .idle) (call : DeviceCall) (serialNumber : String) :
    (([.call call, .next, .next, .next].map fun input => (thread, input)).foldl
        (Interleaving.step (act type)) s).shared = deviceStep type s.shared call ∧
      (([.delete serialNumber, .next].map fun input => (thread, input)).foldl
        (Interleaving.step (act type)) s).shared =
          NewCommandHandler.removeDevice type s.shared serialNumber := by
  -- Turns of one thread only are that thread on its own.
  constructor
  · rw [(Interleaving.uninterrupted s thread _).1, idle, alone_call]
  · rw [(Interleaving.uninterrupted s thread _).1, idle, alone_delete]

/-- Fewer history entries break no assertion. -/
theorem asserts_of_subset {before after : DeviceTables}
    (subset : ∀ entry ∈ after.history.rows, entry ∈ before.history.rows) {phase : Phase}
    (asserted : asserts phase before) : asserts phase after := by
  -- Only a deletion halfway through asserts anything about the history.
  cases phase with
  | deleting serialNumber => exact fun entry member => asserted entry (subset entry member)
  | _ => exact asserted

/-- With fewer history entries and as many devices there are no more orphans. -/
theorem noOrphans_of_subset {before after : DeviceTables} (none_ : NoOrphans before)
    (history : ∀ entry ∈ after.history.rows, entry ∈ before.history.rows)
    (devices : ∀ row ∈ before.devices.rows,
      ∃ kept ∈ after.devices.rows, kept.serialNumber = row.serialNumber) : NoOrphans after := by
  -- The device of an old entry is still there, under the row that replaced its own.
  intro entry member
  obtain ⟨row, stored, own⟩ := none_ entry (history entry member)
  obtain ⟨kept, present, same⟩ := devices row stored
  exact ⟨kept, present, same.trans own⟩

/-- Writing a row under its own serial number loses no device. -/
theorem devices_updateRecord (devices : DevicesTable) (record : DeviceConnectionInformation) :
    ∀ row ∈ devices.rows, ∃ kept ∈ (Orm.updateRecord devices record.serialNumber record).2.rows,
      kept.serialNumber = row.serialNumber := by
  intro row stored
  have written := Orm.updateRecord_key devices record
  rw [devicesSchema_key] at written
  rw [written]
  -- The row that is written has the serial number of the one it replaces.
  by_cases own : row.serialNumber = record.serialNumber
  · have addressed : devicesSchema.key record ∈ devices.rows.map devicesSchema.key :=
      List.mem_map.mpr ⟨row, stored, own⟩
    exact ⟨record, KeyedTable.mem_replace.mpr (Or.inr ⟨rfl, addressed⟩), own.symm⟩
  · exact ⟨row, KeyedTable.mem_replace.mpr (Or.inl ⟨stored, own⟩), rfl⟩

/-- Creating a row loses no other one, whether it succeeds or not. -/
theorem devices_createRecord (executed : Bool) (devices : DevicesTable)
    (record : DeviceConnectionInformation) :
    ∀ row ∈ devices.rows, row ∈ (Orm.createRecord executed devices record).2.rows := by
  -- An insertion appends, and a refused one leaves the table as it is.
  intro row stored
  rcases Orm.createRecord_cases executed devices record with ⟨_, rows, _⟩ | refused
  · rw [rows]
    exact List.mem_append_left _ stored
  · rw [refused]
    exact stored

/-- Deleting a history brings no entry back, and leaves none of the device when its clause selects them. -/
theorem history_deleteHistory (type : DBType) (s : DeviceTables) (serialNumber : String) :
    (∀ entry ∈ (HistoryDB.deleteHistory type s.history serialNumber).2.rows,
        entry ∈ s.history.rows) ∧
      (NewCommandHandler.ClauseSelects type s serialNumber →
        ∀ entry ∈ (HistoryDB.deleteHistory type s.history serialNumber).2.rows,
          entry.serialNumber ≠ serialNumber) := by
  -- The first statement of a deletion is the history half of removing the device.
  constructor
  · exact (Service.subset_removeDevice type s serialNumber).2
  · intro selects
    exact ((NewCommandHandler.gone_removeDevice type s serialNumber).mpr selects).2

/-- What holds of the threads while no orphan is left. -/
def Sound {ι : Type} (s : System ι) : Prop :=
  Interleaving.Holds NoOrphans asserts (fun _ _ => True) s

variable {ι : Type} [DecidableEq ι] {s : System ι} {turn : ι × Turn}

/-- A turn that only reads keeps the threads sound. -/
theorem sound_of_read (sound : Sound s)
    (same : (act type (s.threads turn.1) s.shared turn.2).2 = s.shared)
    (asserted : asserts (act type (s.threads turn.1) s.shared turn.2).1 s.shared) :
    Sound (Interleaving.step (act type) s turn) := by
  -- Assertions about an unchanged state stay as they are.
  refine Interleaving.Holds.step sound ?_ ?_ fun _ _ => ⟨trivial, trivial⟩
  · rw [same]
    exact ⟨sound.invariant, asserted⟩
  · intro other _ own
    rw [same]
    exact own

/-- A turn that only adds devices and removes history keeps the threads sound. -/
theorem sound_of_shrink (sound : Sound s)
    (history : ∀ entry ∈ (act type (s.threads turn.1) s.shared turn.2).2.history.rows,
      entry ∈ s.shared.history.rows)
    (devices : ∀ row ∈ s.shared.devices.rows,
      ∃ kept ∈ (act type (s.threads turn.1) s.shared turn.2).2.devices.rows,
        kept.serialNumber = row.serialNumber)
    (asserted : asserts (act type (s.threads turn.1) s.shared turn.2).1
      (act type (s.threads turn.1) s.shared turn.2).2) :
    Sound (Interleaving.step (act type) s turn) := by
  -- No assertion is about the presence of an entry, so a smaller history breaks none.
  refine Interleaving.Holds.step sound ?_ ?_ fun _ _ => ⟨trivial, trivial⟩
  · exact ⟨noOrphans_of_subset sound.invariant history devices, asserted⟩
  · intro other _ own
    exact asserts_of_subset history own

/-- The row read at the beginning of a call is the row of its device. -/
theorem asserts_call (type : DBType) (tables : DeviceTables) (call : DeviceCall) :
    (act type .idle tables (.call call)).2 = tables ∧
      asserts (act type .idle tables (.call call)).1 tables := by
  cases call with
  | setRevision c ctx serialNumber revision deviceType endPoint =>
    simp only [act]
    cases found : Orm.getRecord tables.devices serialNumber with
    | none => exact ⟨rfl, trivial⟩
    | some D =>
      have own : D.serialNumber = serialNumber := (KeyedTable.lookup_eq_some.mp found).2
      -- Either way the thread goes on with the row it has read.
      by_cases changed : D.revision ≠ revision
      · simp only [if_pos changed]
        exact ⟨trivial, own⟩
      · simp only [if_neg changed]
        exact ⟨trivial, own⟩
  | setDisconnected serialNumber endPoint =>
    simp only [act]
    cases found : Orm.getRecord tables.devices serialNumber with
    | none => exact ⟨rfl, trivial⟩
    | some D => exact ⟨rfl, (KeyedTable.lookup_eq_some.mp found).2⟩

/-- A guarded insertion keeps the threads sound. -/
theorem sound_of_insertion (sound : Sound s) {executed : Bool} {entry : RevisionHistoryEntry}
    {serialNumber : String} {record : DeviceConnectionInformation}
    (point : s.threads turn.1 = .inserting executed entry serialNumber record)
    (input : turn.2 = .next)
    (stored : ∃ row ∈ s.shared.devices.rows, row.serialNumber = entry.serialNumber)
    (undeleted : ∀ other, s.threads other ≠ .deleting entry.serialNumber) :
    Sound (Interleaving.step (act type) s turn) := by
  have own := sound.assertion turn.1
  have outcome : act type (s.threads turn.1) s.shared turn.2 = (.updating serialNumber record,
      { s.shared with history := (Orm.createRecord executed s.shared.history entry).2 }) := by
    rw [point, input]
    rfl
  -- The table holds the old entries and at most the inserted one.
  have grown : ∀ old ∈ (Orm.createRecord executed s.shared.history entry).2.rows,
      old ∈ s.shared.history.rows ∨ old = entry := by
    intro old member
    rcases Orm.createRecord_cases executed s.shared.history entry with ⟨_, rows, _⟩ | refused
    · rw [rows, List.mem_append, List.mem_singleton] at member
      exact member
    · rw [refused] at member
      exact Or.inl member
  rw [point] at own
  refine Interleaving.Holds.step sound ?_ ?_ fun _ _ => ⟨trivial, trivial⟩
  · rw [outcome]
    refine ⟨fun old member => ?_, own⟩
    rcases grown old member with before | rfl
    · exact sound.invariant old before
    · exact stored
  · intro other _ asserted
    rw [outcome]
    -- The entry may only trouble a thread that is deleting its device, and the guard excludes that one.
    cases phase : s.threads other with
    | deleting deleted =>
      rw [phase] at asserted
      intro old member
      rcases grown old member with before | rfl
      · exact asserted old before
      · exact fun same => undeleted other (same ▸ phase)
    | _ =>
      rw [phase] at asserted
      exact asserted

/-- The first statement of a deletion keeps the threads sound when it selects the history of its device. -/
theorem sound_of_clearing (sound : Sound s) {serialNumber : String}
    (point : s.threads turn.1 = .idle) (input : turn.2 = .delete serialNumber)
    (selects : NewCommandHandler.ClauseSelects type s.shared serialNumber) :
    Sound (Interleaving.step (act type) s turn) := by
  -- After it the thread asserts that no entry of the device is left.
  obtain ⟨subset, emptied⟩ := history_deleteHistory type s.shared serialNumber
  refine sound_of_shrink sound ?_ ?_ ?_
  · rw [point, input]
    exact subset
  · rw [point, input]
    exact fun row stored => ⟨row, stored, rfl⟩
  · rw [point, input]
    exact emptied selects

/-- The update at the end of a call keeps the threads sound. -/
theorem sound_of_update (sound : Sound s) {serialNumber : String}
    {record : DeviceConnectionInformation}
    (point : s.threads turn.1 = .updating serialNumber record) (input : turn.2 = .next) :
    Sound (Interleaving.step (act type) s turn) := by
  -- The thread asserts that it writes the row of its own device.
  have named : record.serialNumber = serialNumber := by
    have own := sound.assertion turn.1
    rw [point] at own
    exact own
  subst named
  refine sound_of_shrink sound ?_ ?_ ?_
  · rw [point, input]
    exact fun _ member => member
  · rw [point, input]
    exact devices_updateRecord s.shared.devices record
  · rw [point, input]
    trivial

/-- The creation of a row keeps the threads sound. -/
theorem sound_of_creation (sound : Sound s) {executed : Bool} {record : DeviceConnectionInformation}
    (point : s.threads turn.1 = .creating executed record) (input : turn.2 = .next) :
    Sound (Interleaving.step (act type) s turn) := by
  refine sound_of_shrink sound ?_ ?_ ?_
  · rw [point, input]
    exact fun _ member => member
  · rw [point, input]
    exact fun row stored =>
      ⟨row, devices_createRecord executed s.shared.devices record row stored, rfl⟩
  · rw [point, input]
    trivial

/-- The second statement of a deletion keeps the threads sound. -/
theorem sound_of_deletion (sound : Sound s) {serialNumber : String}
    (point : s.threads turn.1 = .deleting serialNumber) (input : turn.2 = .next) :
    Sound (Interleaving.step (act type) s turn) := by
  have emptied := sound.assertion turn.1
  have outcome : act type (s.threads turn.1) s.shared turn.2 = (.idle,
      { s.shared with devices := (DevicesDB.deleteDevice s.shared.devices serialNumber).2 }) := by
    rw [point, input]
    rfl
  rw [point] at emptied
  -- What the deleting thread asserts is what makes the deletion of the row safe.
  refine Interleaving.Holds.step sound ?_ ?_ fun _ _ => ⟨trivial, trivial⟩
  · rw [outcome]
    refine ⟨fun entry member => ?_, trivial⟩
    obtain ⟨row, stored, own⟩ := sound.invariant entry member
    -- The deleted device has no entries left, so this entry belongs to another one.
    have another : row.serialNumber ≠ serialNumber := own ▸ emptied entry member
    exact ⟨row, KeyedTable.mem_delete.mpr ⟨stored, decide_eq_false another⟩, own⟩
  · intro other _ asserted
    rw [outcome]
    refine asserts_of_subset ?_ asserted
    exact fun _ member => member

/-- What a guarded turn leaves of sound threads is sound. -/
theorem sound_step (sound : Sound s) (guarded : Guarded type s turn) :
    Sound (Interleaving.step (act type) s turn) := by
  have own := sound.assertion turn.1
  -- A turn that does not fit the phase of its thread changes nothing.
  have unfit (same : act type (s.threads turn.1) s.shared turn.2 =
      (s.threads turn.1, s.shared)) : Sound (Interleaving.step (act type) s turn) :=
    sound_of_read sound (by rw [same]) (by rw [same]; exact own)
  unfold Guarded at guarded
  -- One case a phase: what it does next, and what the guard says about it.
  cases point : s.threads turn.1 with
  | idle =>
    cases input : turn.2 with
    | call call =>
      obtain ⟨same, asserted⟩ := asserts_call type s.shared call
      exact sound_of_read sound (by rw [point, input]; exact same)
        (by rw [point, input]; exact asserted)
    | delete serialNumber =>
      rw [point, input] at guarded
      exact sound_of_clearing sound point input guarded
    | next => exact unfit (by rw [point, input]; rfl)
  | lookingUp c ctx D serialNumber revision deviceType endPoint =>
    cases input : turn.2 with
    | next =>
      rw [point] at own
      exact sound_of_read sound (by rw [point, input]; rfl) (by rw [point, input]; exact own)
    | _ => exact unfit (by rw [point, input]; rfl)
  | inserting executed entry serialNumber record =>
    cases input : turn.2 with
    | next =>
      rw [point, input] at guarded
      exact sound_of_insertion sound point input guarded.1 guarded.2
    | _ => exact unfit (by rw [point, input]; rfl)
  | updating serialNumber record =>
    cases input : turn.2 with
    | next => exact sound_of_update sound point input
    | _ => exact unfit (by rw [point, input]; rfl)
  | creating executed record =>
    cases input : turn.2 with
    | next => exact sound_of_creation sound point input
    | _ => exact unfit (by rw [point, input]; rfl)
  | deleting serialNumber =>
    cases input : turn.2 with
    | next => exact sound_of_deletion sound point input
    | _ => exact unfit (by rw [point, input]; rfl)

/-- An executed insertion under a new id that is not guarded leaves an orphan. -/
theorem orphan_of_unguarded {thread : ι} {entry : RevisionHistoryEntry} {serialNumber : String}
    {record : DeviceConnectionInformation}
    (point : s.threads thread = .inserting true entry serialNumber record)
    (new : ∀ old ∈ s.shared.history.rows, old.id ≠ entry.id)
    (unguarded : ¬ Guarded type s (thread, .next)) :
    LeavesOrphan type s thread entry.serialNumber := by
  obtain ⟨grown, created, rows⟩ := Orm.createRecord_of_fresh (t := s.shared.history) entry new
  have inserted : (Interleaving.step (act type) s (thread, .next)).shared =
      { s.shared with history := grown } := by
    simp only [Interleaving.step, point, act, created]
  have present : entry ∈ grown.rows := by
    rw [rows]
    exact List.mem_append_right _ (List.mem_singleton.mpr rfl)
  -- The guard fails because the device is gone, or because it is about to go.
  simp only [Guarded, point, not_and_or, not_forall, not_not] at unguarded
  rcases unguarded with unstored | ⟨other, deleting⟩
  · -- The row was gone before the insertion.
    refine Or.inl fun none_ => unstored ?_
    rw [inserted] at none_
    exact none_ entry present
  · -- The row is still there, and the thread that deletes it has passed the history already.
    refine Or.inr ⟨other, deleting, fun none_ => ?_⟩
    have apart : other ≠ (thread, Turn.next).1 := by
      rintro rfl
      rw [point] at deleting
      exact absurd deleting (by simp)
    have stays : (Interleaving.step (act type) s (thread, .next)).threads other =
        .deleting entry.serialNumber :=
      (Interleaving.threads_step_of_ne apart).trans deleting
    have removed : (Interleaving.step (act type)
        (Interleaving.step (act type) s (thread, .next)) (other, .next)).shared =
        ⟨(DevicesDB.deleteDevice s.shared.devices entry.serialNumber).2, grown⟩ := by
      rw [Interleaving.step, stays, inserted]
      rfl
    rw [removed] at none_
    obtain ⟨row, left, own⟩ := none_ entry present
    exact of_decide_eq_false (KeyedTable.mem_delete.mp left).2 own

/--
Guarded interleavings of reports and deletions never leave an orphan.

Starting from tables without orphans, no state of such an interleaving has one, whether or not a thread
is in the middle of a call. An insertion that is not guarded leaves one, at once or when the
interrupted deletion is finished.
-/
theorem noOrphans_of_guarded (ι : Type) [DecidableEq ι] (type : DBType) (tables : DeviceTables)
    (initial : NoOrphans tables) (turns : List (ι × Turn)) :
    (Transition.Along (Interleaving.step (act type)) (Guarded type)
        (Interleaving.start tables .idle) turns →
      ∀ reached ∈ Transition.states (Interleaving.step (act type))
        (Interleaving.start tables .idle) turns, NoOrphans reached.shared) ∧
      ∀ reached ∈ Transition.states (Interleaving.step (act type))
        (Interleaving.start tables .idle) turns,
        ∀ (thread : ι) (entry : RevisionHistoryEntry) (serialNumber : String)
          (record : DeviceConnectionInformation),
          reached.threads thread = .inserting true entry serialNumber record →
          (∀ old ∈ reached.shared.history.rows, old.id ≠ entry.id) →
          ¬ Guarded type reached (thread, .next) →
          LeavesOrphan type reached thread entry.serialNumber := by
  -- The first part is the run of the step lemma, the second one holds of every state as it is.
  constructor
  · intro guarded reached member
    have start : Sound (Interleaving.start (ι := ι) tables .idle) :=
      Interleaving.holds_start initial trivial trivial
    exact (Interleaving.holds_along (fun _ _ sound guarded => sound_step sound guarded) start guarded
      reached member).invariant
  · intro reached _ thread entry serialNumber record point new unguarded
    exact orphan_of_unguarded point new unguarded

/-- The two threads. -/
inductive Thread where
  | connection | command
  deriving DecidableEq

/-- Whether a thread is between two calls. -/
def Phase.isIdle : Phase → Bool
  | .idle => true
  | _ => false

/-- A device on its first revision. -/
def oneDevice : DeviceTables where
  devices := .single { serialNumber := "903cb3000001", revision := "v1", status := "connected" }

/-- The device reports another revision. -/
def upgraded : DeviceCall :=
  .setRevision {} { uuid := "h" } "903cb3000001" "v2" "eap101" "gw"

/-- No entry of that table is an orphan, since it has none. -/
theorem noOrphans_oneDevice : NoOrphans oneDevice := by
  -- There is no entry to be an orphan.
  intro entry member
  exact absurd member List.not_mem_nil

/-- The device is deleted after its row has been read, and before its entry is inserted. -/
def readDeleteInsert : List (Thread × Turn) :=
  [(.connection, .call upgraded), (.command, .delete "903cb3000001"), (.command, .next),
    (.connection, .next), (.connection, .next), (.connection, .next)]

/-- The device is deleted after its report has been processed. -/
def reportDelete : List (Thread × Turn) :=
  [(.connection, .call upgraded), (.connection, .next), (.connection, .next), (.connection, .next),
    (.command, .delete "903cb3000001"), (.command, .next)]

/-- A report followed by a deletion leaves no orphan. -/
theorem noOrphans_reportDelete :
    NoOrphans (reportDelete.foldl (Interleaving.step (act .sqlite))
      (Interleaving.start oneDevice .idle)).shared := by
  -- The insertion is the only turn with something to check: the device is stored, and nobody deletes it.
  refine (noOrphans_of_guarded Thread .sqlite oneDevice noOrphans_oneDevice reportDelete).1 ?_ _
    (Transition.last_mem_states _ reportDelete)
  refine ⟨trivial, trivial, ⟨⟨_, List.mem_singleton.mpr rfl, rfl⟩, fun other => ?_⟩, trivial,
    NewCommandHandler.clauseSelects_of_plain (S := ("903cb3000001", "")) (by decide), trivial, trivial⟩
  cases other <;> exact Phase.noConfusion

/-- A deletion between the reading of a row and the insertion of its entry leaves an orphan. -/
theorem orphan_of_readDeleteInsert :
    ¬ ∀ (tables : DeviceTables) (turns : List (Thread × Turn)), NoOrphans tables →
      ∀ reached ∈ Transition.states (Interleaving.step (act .sqlite))
          (Interleaving.start tables .idle) turns,
        (∀ thread, (reached.threads thread).isIdle = true) → NoOrphans reached.shared := by
  -- At the end both threads are idle, no device is left, and one entry is.
  intro clean
  have none_ := clean oneDevice readDeleteInsert noOrphans_oneDevice _
    (Transition.last_mem_states _ readDeleteInsert)
    (fun thread => by cases thread <;> decide +kernel)
  have devices : (readDeleteInsert.foldl (Interleaving.step (act .sqlite))
      (Interleaving.start oneDevice .idle)).shared.devices.rows = [] := by decide +kernel
  have history : (readDeleteInsert.foldl (Interleaving.step (act .sqlite))
      (Interleaving.start oneDevice .idle)).shared.history.rows.length = 1 := by decide +kernel
  obtain ⟨entry, one⟩ := List.length_eq_one_iff.mp history
  obtain ⟨row, stored, _⟩ := none_ entry (by rw [one]; exact List.mem_singleton.mpr rfl)
  rw [devices] at stored
  exact absurd stored List.not_mem_nil

end Fms.DeviceThreads
