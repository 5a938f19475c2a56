import Fms.Devices.DevicesDb
import Fms.Nlohmann.Json
import Fms.Relation.Run

/-! `NewCommandHandler`: the commands that delete devices, and the messages that end their worker. -/

namespace Fms

open Nlohmann

/-- The worker of `NewCommandHandler`, and the tables it writes to. -/
structure CommandWorker where
  /-- Whether `run` has not been left by an exception. -/
  running : Bool := true
  tables : DeviceTables := {}

namespace NewCommandHandler

/-- The host of a message; the name is read and not used. -/
def readEndPoint (M : Json) : Option String :=
  if M.contains "system" then do
    let systemObj ← M.index "system"
    if systemObj.contains "host" then do
      let host ← systemObj.index "host"
      host.getString
    else some ""
  else some ""

/-- The history of a device is deleted, and then the device. -/
def removeDevice (type : DBType) (s : DeviceTables) (serialNumber : String) : DeviceTables :=
  let history := (HistoryDB.deleteHistory type s.history serialNumber).2
  let devices := (DevicesDB.deleteDevice s.devices serialNumber).2
  ⟨devices, history⟩

/--
The body of the loop in `run`, for a key and a message taken from the queue.

The handler around it catches the exceptions of the Poco library only, so there is no result where
the JSON library throws one of its own.
-/
def handle (parse : String → Option Json) (type : DBType) (s : DeviceTables)
    (S : String × String) : Option DeviceTables := do
  let serialNumber := S.1
  let M ← parse S.2
  let _ ← readEndPoint M
  if M.contains "payload" then
    let payloadSection ← M.index "payload"
    if payloadSection.contains "command" then
      let command ← payloadSection.index "command"
      if command.equals "delete_device" then
        let inner ← payloadSection.index "payload"
        let pSerialNumber ← inner.index "serialNumber"
        if pSerialNumber.equals serialNumber then some (removeDevice type s serialNumber) else some s
      else some s
    else some s
  else some s

/-- The worker after a message has been delivered; nobody takes messages from the queue of a dead one. -/
def step (parse : String → Option Json) (type : DBType) (w : CommandWorker) (S : String × String) :
    CommandWorker :=
  if w.running then
    match handle parse type w.tables S with
    | some tables => { w with tables }
    | none => { w with running := false }
  else w

/-- The name of the host in a message, if there is one, is a string. -/
def HostIsText (M : Json) : Prop :=
  ∀ systemObj, M.member? "system" = some systemObj →
    ∀ host, systemObj.member? "host" = some host → ∃ text, host = .string text

/-- A message is a command to delete a device. -/
def Deletes (M payloadSection : Json) : Prop :=
  M.member? "payload" = some payloadSection ∧
    payloadSection.member? "command" = some (.string "delete_device")

/--
A message the worker gets past.

It is JSON, the host it names is a string, and the arguments of a deletion are an object, null or
missing.
-/
def Processable (parse : String → Option Json) (S : String × String) : Prop :=
  ∃ M, parse S.2 = some M ∧ HostIsText M ∧
    ∀ payloadSection, Deletes M payloadSection →
      ∀ inner, payloadSection.member? "payload" = some inner → inner.Indexable

/-- A command to delete the device its message has as its key. -/
def DeletesKey (parse : String → Option Json) (S : String × String) : Prop :=
  ∃ M payloadSection inner, parse S.2 = some M ∧ Deletes M payloadSection ∧
    payloadSection.member? "payload" = some inner ∧
    inner.member? "serialNumber" = some (.string S.1)

/-- No row of either table belongs to a device. -/
def Gone (s : DeviceTables) (serialNumber : String) : Prop :=
  (∀ row ∈ s.devices.rows, row.serialNumber ≠ serialNumber) ∧
    ∀ row ∈ s.history.rows, row.serialNumber ≠ serialNumber

/-- The worker gets past a message, and removes the device if the message is a command to do so. -/
def GetsPast (parse : String → Option Json) (type : DBType) (w : CommandWorker)
    (S : String × String) : Prop :=
  (step parse type w S).running = true ∧
    (DeletesKey parse S → Gone (step parse type w S).tables S.1)

/-- The clause for a device, as the database reads it, selects all entries of the device. -/
def ClauseSelects (type : DBType) (s : DeviceTables) (serialNumber : String) : Prop :=
  ∀ row ∈ s.history.rows, row.serialNumber = serialNumber →
    ∃ condition, Sql.whereClause type.dialect historySchema.columns
      (HistoryDB.serialClause serialNumber) = some condition ∧ condition row = true

variable {parse : String → Option Json} {type : DBType} {s : DeviceTables} {S : String × String}

/-- The host is read without an exception exactly when it is a string. -/
theorem isSome_readEndPoint {M : Json} : (readEndPoint M).isSome = true ↔ HostIsText M := by
  -- The host is looked for on two levels, and either may be missing.
  unfold readEndPoint HostIsText Json.contains
  cases system : M.member? "system" with
  | none => simp
  | some systemObj =>
    have indexed := Json.index_of_member system
    cases host : systemObj.member? "host" with
    | none => simp [indexed, host]
    | some value =>
      have read := Json.index_of_member host
      -- Only a string converts to a text.
      cases value <;> simp [indexed, host, read, Json.getString]

/-- The changes of a message that is a command to delete a device. -/
def applyDeletion (type : DBType) (s : DeviceTables) (serialNumber : String)
    (payloadSection : Json) : Option DeviceTables := do
  let inner ← payloadSection.index "payload"
  let pSerialNumber ← inner.index "serialNumber"
  if pSerialNumber.equals serialNumber then some (removeDevice type s serialNumber) else some s

/-- A message that is no deletion changes nothing, and a deletion is applied. -/
theorem handle_eq {M : Json} (parsed : parse S.2 = some M) (host : HostIsText M) (type : DBType)
    (s : DeviceTables) :
    (∀ payloadSection, Deletes M payloadSection →
        handle parse type s S = applyDeletion type s S.1 payloadSection) ∧
      ((∀ payloadSection, ¬ Deletes M payloadSection) → handle parse type s S = some s) := by
  obtain ⟨endPoint, read⟩ := Option.isSome_iff_exists.mp (isSome_readEndPoint.mpr host)
  simp only [handle, parsed, read, Option.bind_eq_bind, Option.bind_some, Json.contains]
  -- A message without a payload, or with a payload but no command, is no deletion.
  cases payload : M.member? "payload" with
  | none => simp [Deletes, payload]
  | some payloadSection =>
    have indexed := Json.index_of_member payload
    simp only [Deletes, payload, Option.some.injEq, indexed, Option.isSome_some, if_true,
      Option.bind_some]
    cases command : payloadSection.member? "command" with
    | none => simp [command]
    | some value =>
      have told := Json.index_of_member command
      simp only [told, Option.isSome_some, if_true, Option.bind_some]
      -- The command is compared with the name of the deletion as a text.
      by_cases deletion : value.equals "delete_device" = true
      · have named := Json.equals_iff.mp deletion
        subst named
        refine ⟨?_, fun none_ => absurd ⟨rfl, command⟩ (none_ payloadSection)⟩
        rintro _ ⟨rfl, _⟩
        simp only [deletion, if_true]
        rfl
      · have other : value ≠ .string "delete_device" := fun same => deletion (Json.equals_iff.mpr same)
        refine ⟨?_, fun _ => if_neg deletion⟩
        rintro _ ⟨rfl, named⟩
        rw [command] at named
        exact absurd (Option.some.inj named) other

/-- A deletion is applied without an exception exactly when its arguments can be indexed. -/
theorem isSome_applyDeletion {M payloadSection : Json} (deletes : Deletes M payloadSection)
    (serialNumber : String) :
    (applyDeletion type s serialNumber payloadSection).isSome = true ↔
      ∀ inner, payloadSection.member? "payload" = some inner → inner.Indexable := by
  have indexed := Json.index_of_object deletes.2 "payload"
  -- Missing arguments are null, and null can be indexed.
  cases arguments : payloadSection.member? "payload" with
  | none =>
    rw [arguments, Option.getD_none] at indexed
    refine iff_of_true ?_ (by simp)
    have nothing : Json.null.index "serialNumber" = some .null := rfl
    simp [applyDeletion, indexed, nothing, Json.equals]
  | some inner =>
    rw [arguments, Option.getD_some] at indexed
    simp only [Option.some.injEq, forall_eq']
    rw [← Json.isSome_index "serialNumber"]
    -- Whatever the serial number is, comparing it does not throw.
    cases serial : inner.index "serialNumber" with
    | none => simp [applyDeletion, indexed, serial]
    | some pSerialNumber =>
      simp only [applyDeletion, indexed, serial, Option.bind_eq_bind, Option.bind_some]
      split <;> simp

/-- The body of the loop ends without an exception exactly when the message is processable. -/
theorem isSome_handle (parse : String → Option Json) (type : DBType) (s : DeviceTables)
    (S : String × String) : (handle parse type s S).isSome = true ↔ Processable parse S := by
  cases parsed : parse S.2 with
  | none =>
    -- The parser has thrown.
    simp [handle, Processable, parsed]
  | some M =>
    simp only [Processable, parsed, Option.some.injEq, exists_eq_left']
    by_cases host : HostIsText M
    · obtain ⟨applied, unchanged⟩ := handle_eq parsed host type s
      -- A message has one payload, so it is a deletion in one way or in none.
      by_cases deletes : ∃ payloadSection, Deletes M payloadSection
      · obtain ⟨payloadSection, deletion⟩ := deletes
        have only : ∀ other, Deletes M other → other = payloadSection := by
          intro other same
          exact Option.some.inj (same.1.symm.trans deletion.1)
        rw [applied payloadSection deletion, isSome_applyDeletion deletion, and_iff_right host]
        constructor
        · intro indexable other same
          rw [only other same]
          exact indexable
        · intro indexable
          exact indexable payloadSection deletion
      · have none_ : ∀ payloadSection, ¬ Deletes M payloadSection := not_exists.mp deletes
        rw [unchanged none_]
        exact iff_of_true rfl ⟨host, fun payloadSection deletion => absurd deletion (none_ _)⟩
    · -- The conversion of the host has thrown.
      have thrown : readEndPoint M = none := by
        rw [← Option.not_isSome_iff_eq_none, isSome_readEndPoint]
        exact host
      simp [handle, parsed, thrown, host]

/-- A command to delete the device of its key removes that device. -/
theorem handle_of_deletesKey (processable : Processable parse S) (deletes : DeletesKey parse S)
    (type : DBType) (s : DeviceTables) :
    handle parse type s S = some (removeDevice type s S.1) := by
  obtain ⟨M, payloadSection, inner, parsed, deletion, arguments, serial⟩ := deletes
  obtain ⟨_, same, host, _⟩ := processable
  obtain rfl := Option.some.inj (parsed.symm.trans same)
  rw [(handle_eq parsed host type s).1 payloadSection deletion]
  -- Both levels of the arguments are members, and the serial number is that of the key.
  have indexed := Json.index_of_member arguments
  have read := Json.index_of_member serial
  simp [applyDeletion, indexed, read, Json.equals]

/-- Removing a device leaves nothing of it exactly when its clause selects all of its entries. -/
theorem gone_removeDevice (type : DBType) (s : DeviceTables) (serialNumber : String) :
    Gone (removeDevice type s serialNumber) serialNumber ↔ ClauseSelects type s serialNumber := by
  have device : ∀ row ∈ (removeDevice type s serialNumber).devices.rows,
      row.serialNumber ≠ serialNumber := by
    intro row member
    exact of_decide_eq_false (KeyedTable.mem_delete.mp member).2
  rw [Gone, and_iff_right device]
  unfold ClauseSelects
  simp only [removeDevice, HistoryDB.deleteHistory, Orm.deleteRecords]
  -- The device goes by its primary key, the history by the clause.
  cases Sql.whereClause type.dialect historySchema.columns
      (HistoryDB.serialClause serialNumber) with
  | none =>
    -- A statement the database refuses deletes nothing.
    simp
  | some condition =>
    simp only [KeyedTable.mem_delete, Option.some.injEq, exists_eq_left']
    constructor
    · intro gone row stored own
      by_contra kept
      exact gone row ⟨stored, by simpa using kept⟩ own
    · rintro selects row ⟨stored, kept⟩ own
      rw [selects row stored own] at kept
      contradiction

/-- The clause of a plain serial number selects all entries of the device. -/
theorem clauseSelects_of_plain (plain : Sql.Plain type.dialect S.1) : ClauseSelects type s S.1 := by
  -- The clause of a plain serial number is about that serial number.
  intro row _ own
  exact ⟨_, HistoryDB.serialClause_denotes plain.spells, by simpa using own⟩

/-- A running worker survives a message exactly when the message is processable. -/
theorem running_step_iff {w : CommandWorker} (running : w.running = true) :
    (step parse type w S).running = true ↔ Processable parse S := by
  rw [← isSome_handle parse type w.tables S, step, if_pos running]
  -- An exception of the body ends the worker.
  cases handle parse type w.tables S with
  | none => exact iff_of_false Bool.false_ne_true Bool.false_ne_true
  | some tables => exact iff_of_true running rfl

/-- A running worker gets past a message, if a deletion is for a plain key, exactly when it is processable. -/
theorem getsPast_iff {w : CommandWorker} (running : w.running = true)
    (plain : DeletesKey parse S → Sql.Plain type.dialect S.1) :
    GetsPast parse type w S ↔ Processable parse S := by
  rw [GetsPast, running_step_iff running]
  refine and_iff_left_of_imp fun processable deletes => ?_
  -- The clause of a plain key is about that key, so all of the device goes.
  have removed := handle_of_deletesKey processable deletes type w.tables
  have tables : (step parse type w S).tables = removeDevice type w.tables S.1 := by
    rw [step, if_pos running, removed]
  rw [tables]
  exact (gone_removeDevice type w.tables S.1).mpr (clauseSelects_of_plain (plain deletes))

/-- A message whose deletion, if it is one, is for a key without quotes. -/
def PlainKey (parse : String → Option Json) (type : DBType) (S : String × String) : Prop :=
  DeletesKey parse S → Sql.Plain type.dialect S.1

/--
The worker survives all messages exactly when each of them is processable.

If the keys of the deletions are plain, it then also removes every device that it is told to remove.
-/
theorem getsPast_along_iff (parse : String → Option Json) (type : DBType) (tables : DeviceTables)
    (commands : List (String × String)) :
    (Transition.Along (step parse type) (fun w S => (step parse type w S).running = true) { tables } commands ↔
        ∀ S ∈ commands, Processable parse S) ∧
      ((∀ S ∈ commands, PlainKey parse type S) →
        (Transition.Along (step parse type) (GetsPast parse type) { tables } commands ↔
          ∀ S ∈ commands, Processable parse S)) := by
  have start : ({ tables } : CommandWorker).running = true := rfl
  have survives : ∀ w S, w.running = true → ((step parse type w S).running = true ↔ Processable parse S) :=
    fun _ _ running => running_step_iff running
  constructor
  · -- A worker that survives a message is running when the next one comes.
    refine (Transition.along_congr (fun w : CommandWorker => w.running = true) (fun _ _ _ alive => alive)
      survives start commands).trans Transition.along_inputs_iff
  · intro plain
    -- The keys do not depend on the state, so they can be joined to either condition.
    have keys := Transition.along_of_forall (step parse type) plain { tables }
    have agree : Transition.Along (step parse type)
          (fun w S => GetsPast parse type w S ∧ PlainKey parse type S) { tables } commands ↔
        Transition.Along (step parse type)
          (fun _ S => Processable parse S ∧ PlainKey parse type S) { tables } commands :=
      Transition.along_congr (fun w : CommandWorker => w.running = true) (fun _ _ _ past => past.1.1)
        (fun _ _ running => and_congr_left fun key => getsPast_iff running key) start commands
    rw [Transition.along_and, Transition.along_and, and_iff_left keys, and_iff_left keys,
      Transition.along_inputs_iff] at agree
    exact agree

/-- A command to delete a device. -/
def deletionText : String :=
  "\x7b\"payload\":\x7b\"command\":\"delete_device\"," ++
    "\"payload\":\x7b\"serialNumber\":\"903cb3000001\"\x7d\x7d\x7d"

/-- The arguments of that command. -/
def deletionPayload : Json :=
  .object [("command", .string "delete_device"),
    ("payload", .object [("serialNumber", .string "903cb3000001")])]

/-- A parser that knows the command and no other text. -/
def deletionParser (text : String) : Option Json :=
  if text = deletionText then some (.object [("payload", deletionPayload)]) else none

/-- The command comes with the serial number of its device. -/
def deletion : String × String := ("903cb3000001", deletionText)

/-- A device that has been upgraded once. -/
def knownDevice : DeviceTables where
  devices := .single { serialNumber := "903cb3000001", revision := "r2", deviceType := "eap101" }
  history := .single
    { id := "h", serialNumber := "903cb3000001", fromRelease := "r1", toRelease := "r2", upgraded := 60 }

/-- The worker can read that command. -/
theorem processable_deletion : Processable deletionParser deletion := by
  refine ⟨.object [("payload", deletionPayload)], if_pos rfl, ?_, ?_⟩
  · intro systemObj found
    simp [Json.member?] at found
  · rintro payloadSection ⟨named, _⟩ inner found
    obtain rfl : deletionPayload = payloadSection := by simpa [Json.member?] using named
    obtain rfl : Json.object [("serialNumber", .string "903cb3000001")] = inner := by
      simpa [Json.member?, deletionPayload] using found
    trivial

/-- That command names the device of its key. -/
theorem deletesKey_deletion : DeletesKey deletionParser deletion :=
  ⟨.object [("payload", deletionPayload)], deletionPayload,
    .object [("serialNumber", .string "903cb3000001")], if_pos rfl, ⟨rfl, rfl⟩, rfl, rfl⟩

/-- The worker gets past a command to delete a device. -/
theorem getsPast_deletion :
    Transition.Along (step deletionParser .sqlite) (GetsPast deletionParser .sqlite)
      { tables := knownDevice } [deletion] := by
  refine ((getsPast_along_iff deletionParser .sqlite knownDevice [deletion]).2 ?_).mpr ?_
  · intro S member _
    rw [List.mem_singleton.mp member]
    decide +kernel
  · intro S member
    rw [List.mem_singleton.mp member]
    exact processable_deletion

/-- After a text that is not JSON, a command to delete a device leaves the device where it is. -/
theorem deletion_ignored_after_garbage :
    ¬ ∀ (parse : String → Option Json) (type : DBType) (tables : DeviceTables)
      (commands : List (String × String)),
      Transition.Along (step parse type) (GetsPast parse type) { tables } commands := by
  intro past
  have along := past deletionParser .sqlite knownDevice [("903cb3000001", "garbage"), deletion]
  -- The first message has ended the worker, so the row of the device is still there.
  obtain ⟨devices, _⟩ := along.2.1.2 deletesKey_deletion
  have still : (step deletionParser .sqlite (step deletionParser .sqlite { tables := knownDevice }
      ("903cb3000001", "garbage")) deletion).tables.devices.rows = knownDevice.devices.rows := by
    decide +kernel
  rw [still] at devices
  exact devices _ (List.mem_singleton.mpr rfl) rfl

end NewCommandHandler

end Fms
