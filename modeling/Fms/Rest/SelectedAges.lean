import Fms.Devices.OutdatedReports
import Fms.Rest.FirmwaresHandler

/-! The ages answered for selected devices, against their rows, across deletions and restarts. -/

namespace Fms

namespace FirmwareAgeHandler

/-- The object without an age. -/
def bare (i : String) : JsonObject :=
  JsonObject.set [] "serialNumber" (.string i)

/-- The age for a device type and a revision, where they are known. -/
def ageOf (type : DBType) (c : Catalogue) (values : Option (String × String)) :
    Option FirmwaresDB.FirmwareAgeDetails := do
  let (deviceType, revision) ← values
  FirmwaresDB.computeFirmwareAge type c deviceType revision

/-- The object for a serial number whose device type and revision are known, or are not. -/
def ageObject (type : DBType) (c : Catalogue) (i : String) (values : Option (String × String)) :
    JsonObject :=
  match ageOf type c values with
  | some FA => FA.toJson.set "serialNumber" (.string i)
  | none => bare i

/-- The object for a serial number is bare exactly when there is no age. -/
theorem ageObject_eq_bare_iff {type : DBType} {c : Catalogue} {i : String}
    {values : Option (String × String)} :
    ageObject type c i values = bare i ↔ ageOf type c values = none := by
  unfold ageObject
  cases ageOf type c values with
  | none => simp
  | some FA =>
    refine iff_of_false ?_ (by simp)
    -- The details have seven members of their own.
    intro same
    have members := congrArg List.length same
    exact absurd members (by simp [bare, FirmwaresDB.FirmwareAgeDetails.toJson, FieldToJson.all,
      FieldToJson.string, FieldToJson.uint64, FieldToJson.bool, JsonObject.set])

end FirmwareAgeHandler

/-- A process of the service: its stores, and its worker for commands. -/
structure Process where
  service : Service := {}
  /-- Whether `NewCommandHandler::run` has not been left by an exception. -/
  running : Bool := true

/-- What reaches a process, and what ends it. -/
inductive ProcessEvent where
  /-- A message about connections, with its key. -/
  | report (ctx : DeviceContext) (connection : String × String)
  /-- A command, with its key. -/
  | command (S : String × String)
  /-- The catalogue becomes another one. -/
  | catalogue (c : Catalogue)
  /-- A new process takes over, with the updater turned on or off by its configuration. -/
  | restart (autoUpdaterEnabled : Bool)

namespace Process

/-- A new process over the same tables: only the cache of firmwares is populated from them. -/
def restart (type : DBType) (autoUpdaterEnabled : Bool) (p : Process) : Process where
  service := {
    catalogue := FirmwaresDB.restart type p.service.catalogue
    tables := p.service.tables
    autoUpdater := { autoUpdaterEnabled } }

/-- The process after an event. -/
def step (poco : Poco) (parse : String → Option Nlohmann.Json) (type : DBType) (p : Process) :
    ProcessEvent → Process
  | .report ctx connection => { p with
      service := NewConnectionHandler.handle poco type ctx p.service connection }
  | .command S =>
    let w := NewCommandHandler.step parse type ⟨p.running, p.service.tables⟩ S
    { service := { p.service with tables := w.tables }, running := w.running }
  | .catalogue c => { p with service.catalogue := c }
  | .restart autoUpdaterEnabled => restart type autoUpdaterEnabled p

/-- The device type and the revision that a message reports for a device. -/
def heard (poco : Poco) (serialNumber : String) (connection : String × String) :
    Option (String × String) := do
  let report ← NewConnectionHandler.readMessage poco connection.2
  if report.serial = serialNumber then report.running else none

/-- What is known of a device after an event. -/
def remember (poco : Poco) (serialNumber : String) (known : Option (String × String)) :
    ProcessEvent → Option (String × String)
  | .report _ connection => (heard poco serialNumber connection).or known
  | .command _ | .catalogue _ => known
  | .restart _ => none

/-- The device type and the revision of the last report about a device since the last restart. -/
def lastReported (poco : Poco) (serialNumber : String) (events : List ProcessEvent) :
    Option (String × String) :=
  events.foldl (remember poco serialNumber) none

/-- The messages about connections come with the serial number of their device as their key. -/
def Keyed (poco : Poco) : ProcessEvent → Prop
  | .report _ connection =>
    ∀ report ∈ NewConnectionHandler.readMessage poco connection.2, report.serial = connection.1
  | .command _ | .catalogue _ | .restart _ => True

/--
A report is written to the row of its device.

A connection is when its age can be computed, a ping always, and a new row has to be inserted.
-/
def Recorded (type : DBType) (ctx : DeviceContext) (s : Service) : Report → Prop
  | .connection serial deviceType revision _ =>
    (FirmwaresDB.computeFirmwareAge type s.catalogue deviceType revision).isSome = true ∧
      (ctx.deviceExecuted = true ∨ (s.tables.devices.lookup serial).isSome = true)
  | .disconnection .. => False
  | .ping serial _ _ _ =>
    ctx.deviceExecuted = true ∨ (s.tables.devices.lookup serial).isSome = true

/-- An event after which the row of a device and its cached entry may differ. -/
def Disturbs (poco : Poco) (parse : String → Option Nlohmann.Json) (serialNumber : String) :
    ProcessEvent → Prop
  | .report _ connection => (heard poco serialNumber connection).isSome = true
  | .command S => S.1 = serialNumber ∧ NewCommandHandler.DeletesKey parse S
  | .catalogue _ => False
  | .restart _ => True

/-- The last report about a device was written to its row, and nothing has disturbed that since. -/
def UpToDate (poco : Poco) (parse : String → Option Nlohmann.Json) (type : DBType) (start : Process)
    (serialNumber : String) (events : List ProcessEvent) : Prop :=
  ∃ before ctx connection report after,
    events = before ++ .report ctx connection :: after ∧
      NewConnectionHandler.readMessage poco connection.2 = some report ∧
      report.serial = serialNumber ∧
      Recorded type ctx (before.foldl (step poco parse type) start).service report ∧
      ∀ event ∈ after, ¬ Disturbs poco parse serialNumber event

/-- The device type and the revision in the row of a device. -/
def stored (s : Service) (serialNumber : String) : Option (String × String) :=
  (s.tables.devices.lookup serialNumber).map fun D => (D.deviceType, D.revision)

/-- The device type and the revision in the cached entry of a device. -/
def cached (s : Service) (serialNumber : String) : Option (String × String) :=
  (DeviceCache.getDevice s.deviceCache serialNumber).map fun E => (E.deviceType, E.revision)

/-- The object answered for a device is the one its row gives. -/
def Agrees (type : DBType) (s : Service) (serialNumber : String) : Prop :=
  FirmwareAgeHandler.selected type s.catalogue s.deviceCache serialNumber =
    FirmwareAgeHandler.ageObject type s.catalogue serialNumber (stored s serialNumber)

variable {poco : Poco} {parse : String → Option Nlohmann.Json} {type : DBType} {s : Service}
  {serialNumber : String}

/-- The object for a selected serial number is that of its cached entry. -/
theorem selected_eq (type : DBType) (s : Service) (serialNumber : String) :
    FirmwareAgeHandler.selected type s.catalogue s.deviceCache serialNumber =
      FirmwareAgeHandler.ageObject type s.catalogue serialNumber (cached s serialNumber) := by
  unfold FirmwareAgeHandler.selected FirmwareAgeHandler.ageObject cached
  -- Without an entry there is no age, and with one the age decides.
  cases DeviceCache.getDevice s.deviceCache serialNumber with
  | none => rfl
  | some E =>
    simp only [Option.map_some, FirmwareAgeHandler.ageOf, Option.bind_eq_bind, Option.bind_some]
    cases FirmwaresDB.computeFirmwareAge type s.catalogue E.deviceType E.revision <;> rfl

/-- A report about a device is remembered in its cached entry, and no other one. -/
theorem cached_handle (poco : Poco) (type : DBType) (ctx : DeviceContext) (s : Service)
    (connection : String × String) (serialNumber : String) :
    cached (NewConnectionHandler.handle poco type ctx s connection) serialNumber =
      (heard poco serialNumber connection).or (cached s serialNumber) := by
  unfold NewConnectionHandler.handle heard cached DeviceCache.getDevice
  cases NewConnectionHandler.readMessage poco connection.2 with
  | none => rfl
  | some report =>
    -- Both kinds of reports end up in one entry, whatever they do to the tables and the queue.
    cases report with
    | disconnection sNum endPoint =>
      simp [NewConnectionHandler.applyReport, Report.running]
    | connection serial deviceType revision endPoint =>
      have cache : (NewConnectionHandler.applyReport type ctx connection.1 s
          (.connection serial deviceType revision endPoint)).deviceCache =
          DeviceCache.addToCache s.deviceCache serial deviceType endPoint revision := by
        simp only [NewConnectionHandler.applyReport, NewConnectionHandler.queueUnlessLatest_deviceCache]
        split <;> rfl
      simp only [cache, DeviceCache.getElem?_addToCache, Option.bind_eq_bind, Option.bind_some,
        Report.serial, Report.running]
      by_cases own : serial = serialNumber <;> simp [own]
    | ping serial deviceType revision endPoint =>
      simp only [NewConnectionHandler.applyReport, NewConnectionHandler.queueUnlessLatest_deviceCache,
        DeviceCache.getElem?_addToCache, Option.bind_eq_bind, Option.bind_some, Report.serial,
        Report.running]
      by_cases own : serial = serialNumber <;> simp [own]

/-- The cached entries follow the reports, one event at a time. -/
theorem cached_step (p : Process) (event : ProcessEvent) (serialNumber : String) :
    cached (step poco parse type p event).service serialNumber =
      remember poco serialNumber (cached p.service serialNumber) event := by
  cases event with
  | report ctx connection => exact cached_handle poco type ctx p.service connection serialNumber
  | command S => rfl
  | catalogue c => rfl
  | restart autoUpdaterEnabled =>
    -- The memory of the new process is empty.
    simp [step, restart, cached, DeviceCache.getDevice, remember]

/-- In every state the cached entry of a device is its last report since the last restart. -/
theorem cached_run (poco : Poco) (parse : String → Option Nlohmann.Json) (type : DBType)
    (autoUpdaterEnabled : Bool) (p : Process) (events : List ProcessEvent) (serialNumber : String) :
    cached (events.foldl (step poco parse type) (p.restart type autoUpdaterEnabled)).service
      serialNumber = lastReported poco serialNumber events := by
  -- The last event works on what the events before it have left.
  induction events using List.reverseRecOn with
  | nil => simp [restart, cached, DeviceCache.getDevice, lastReported]
  | append_singleton before event ih =>
    rw [List.foldl_append, List.foldl_cons, List.foldl_nil, cached_step, ih, lastReported,
      lastReported, List.foldl_append, List.foldl_cons, List.foldl_nil]

/-- Setting a revision gives the device a row with its type, if there is one or one is inserted. -/
theorem lookup_recorded {c : Catalogue} {ctx : DeviceContext} {tables : DeviceTables}
    (written : ctx.deviceExecuted = true ∨ (tables.devices.lookup serialNumber).isSome = true)
    (revision deviceType endPoint : String) :
    ((DevicesDB.setDeviceRevision type c ctx tables serialNumber revision deviceType
      endPoint).2.devices.lookup serialNumber).map (fun D => (D.deviceType, D.revision)) =
      some (deviceType, revision) := by
  -- The row that is there is updated, and a new one needs its insertion.
  rcases written with executed | known
  · rw [lookup_setDeviceRevision executed, if_pos rfl]
    rfl
  · obtain ⟨D, found⟩ := Option.isSome_iff_exists.mp known
    rw [lookup_setDeviceRevision_of_stored found, if_pos rfl]
    rfl

/-- A recorded report under its own serial number is what the row of its device then says. -/
theorem stored_recorded {ctx : DeviceContext} {connection : String × String} {report : Report}
    (read : NewConnectionHandler.readMessage poco connection.2 = some report)
    (own : report.serial = connection.1) (recorded : Recorded type ctx s report) :
    stored (NewConnectionHandler.handle poco type ctx s connection) report.serial = report.running := by
  simp only [NewConnectionHandler.handle, read]
  cases report with
  | disconnection sNum endPoint => exact absurd recorded id
  | connection serial deviceType revision endPoint =>
    obtain ⟨known, written⟩ := recorded
    -- The row goes by the key, which is the serial number.
    have own : serial = connection.1 := own
    subst own
    simp only [stored, NewConnectionHandler.applyReport, known, if_true,
      NewConnectionHandler.queueUnlessLatest_tables]
    exact lookup_recorded written revision deviceType endPoint
  | ping serial deviceType revision endPoint =>
    simp only [stored, NewConnectionHandler.applyReport, NewConnectionHandler.queueUnlessLatest_tables]
    exact lookup_recorded recorded revision deviceType endPoint

/-- A call about another device leaves what the row of a device says. -/
theorem stored_deviceStep (type : DBType) (s : Service) (call : DeviceCall)
    (apart : call.serialNumber ≠ serialNumber) :
    stored { s with tables := deviceStep type s.tables call } serialNumber = stored s serialNumber := by
  -- The row is not touched at all.
  rw [stored, lookup_deviceStep type s.tables call apart, stored]

/-- A disconnection leaves the type and the revision in every row. -/
theorem stored_disconnected (s : Service) (sNum endPoint serialNumber : String) :
    stored { s with tables := (DevicesDB.setDeviceDisconnected s.tables sNum endPoint).2 } serialNumber =
      stored s serialNumber := by
  rw [stored, lookup_setDeviceDisconnected, stored]
  -- Only the status and the endpoint of a row are written.
  by_cases same : serialNumber = sNum
  · rw [if_pos same, same, Option.map_map]
    rfl
  · rw [if_neg same]

/-- A message that reports nothing about a device leaves what its row says. -/
theorem stored_handle {ctx : DeviceContext} {connection : String × String}
    (keyed : Keyed poco (.report ctx connection))
    (silent : ¬ Disturbs poco parse serialNumber (.report ctx connection)) :
    stored (NewConnectionHandler.handle poco type ctx s connection) serialNumber =
      stored s serialNumber := by
  unfold NewConnectionHandler.handle
  cases read : NewConnectionHandler.readMessage poco connection.2 with
  | none => rfl
  | some report =>
    have own := keyed report read
    cases report with
    | disconnection sNum endPoint => exact stored_disconnected s sNum endPoint serialNumber
    | connection serial deviceType revision endPoint =>
      have apart : connection.1 ≠ serialNumber := by
        intro same
        simp [Disturbs, heard, read, own, same, Report.running] at silent
      -- The row that may be written is that of the other device.
      simp only [NewConnectionHandler.applyReport]
      split
      · simp only [stored, NewConnectionHandler.queueUnlessLatest_tables]
        exact stored_deviceStep type s (.setRevision s.catalogue ctx connection.1 revision deviceType
          endPoint) apart
      · simp only [stored, NewConnectionHandler.queueUnlessLatest_tables]
    | ping serial deviceType revision endPoint =>
      have apart : serial ≠ serialNumber := by
        intro same
        simp [Disturbs, heard, read, same, Report.serial, Report.running] at silent
      simp only [stored, NewConnectionHandler.applyReport, NewConnectionHandler.queueUnlessLatest_tables]
      exact stored_deviceStep type s (.setRevision s.catalogue ctx serial revision deviceType endPoint)
        apart

/-- Deleting another device leaves what the row of a device says. -/
theorem stored_removeDevice {removed : String} (apart : removed ≠ serialNumber) :
    stored { s with tables := NewCommandHandler.removeDevice type s.tables removed } serialNumber =
      stored s serialNumber := by
  -- The deletion selects the row of the other device only.
  have kept : (NewCommandHandler.removeDevice type s.tables removed).devices.lookup serialNumber =
      s.tables.devices.lookup serialNumber := by
    apply KeyedTable.lookup_delete
    intro row _ named
    exact decide_eq_false (named.trans_ne apart.symm)
  rw [stored, kept, stored]

/-- An event that does not disturb a device leaves what its row and its cached entry say. -/
theorem undisturbed_step (type : DBType) {event : ProcessEvent} (keyed : Keyed poco event)
    (undisturbed : ¬ Disturbs poco parse serialNumber event) (p : Process) :
    stored (step poco parse type p event).service serialNumber = stored p.service serialNumber ∧
      cached (step poco parse type p event).service serialNumber = cached p.service serialNumber := by
  rw [cached_step]
  cases event with
  | restart autoUpdaterEnabled => exact absurd trivial undisturbed
  | catalogue c => exact ⟨rfl, rfl⟩
  | report ctx connection =>
    refine ⟨stored_handle keyed undisturbed, ?_⟩
    -- Nothing has been heard of the device.
    rw [remember, Option.not_isSome_iff_eq_none.mp undisturbed, Option.none_or]
  | command S =>
    refine ⟨?_, rfl⟩
    simp only [step, NewCommandHandler.step]
    split
    · cases handled : NewCommandHandler.handle parse type p.service.tables S with
      | none => rfl
      | some after =>
        -- A command that is carried out deletes the device of its key, which is another one.
        rcases Service.handle_cases handled with rfl | ⟨deletes, rfl⟩
        · rfl
        · exact stored_removeDevice fun same => undisturbed ⟨same, deletes⟩
    · rfl

/-- What a device's row and cached entry say stays so as long as nothing disturbs the device. -/
theorem undisturbed_run {events : List ProcessEvent} (keyed : ∀ event ∈ events, Keyed poco event)
    (undisturbed : ∀ event ∈ events, ¬ Disturbs poco parse serialNumber event) (p : Process) :
    stored (events.foldl (step poco parse type) p).service serialNumber =
        stored p.service serialNumber ∧
      cached (events.foldl (step poco parse type) p).service serialNumber =
        cached p.service serialNumber := by
  -- Step by step, each one leaving both stores as the one before it has.
  induction events generalizing p with
  | nil => exact ⟨rfl, rfl⟩
  | cons event rest ih =>
    obtain ⟨row, entry⟩ := undisturbed_step type (keyed event List.mem_cons_self)
      (undisturbed event List.mem_cons_self) p
    have later := ih (fun other member => keyed other (List.mem_cons_of_mem _ member))
      (fun other member => undisturbed other (List.mem_cons_of_mem _ member))
      (step poco parse type p event)
    exact ⟨later.1.trans row, later.2.trans entry⟩

/-- A device whose row is up to date has in it what its cached entry says. -/
theorem stored_of_upToDate {start : Process} {events : List ProcessEvent}
    (keyed : ∀ event ∈ events, Keyed poco event)
    (upToDate : UpToDate poco parse type start serialNumber events) :
    (stored (events.foldl (step poco parse type) start).service serialNumber).isSome = true ∧
      stored (events.foldl (step poco parse type) start).service serialNumber =
        cached (events.foldl (step poco parse type) start).service serialNumber := by
  -- The run is cut behind the report.
  obtain ⟨before, ctx, connection, report, after, rfl, read, rfl, recorded, undisturbed⟩ := upToDate
  have own : report.serial = connection.1 :=
    keyed (.report ctx connection) (by simp) report read
  -- The report is what both stores say right after it.
  have row := stored_recorded read own recorded
  have entry := cached_handle poco type ctx
    (before.foldl (step poco parse type) start).service connection report.serial
  have said : (report.running).isSome = true := by
    cases report with
    | disconnection => exact absurd recorded id
    | connection => rfl
    | ping => rfl
  obtain ⟨running, named⟩ := Option.isSome_iff_exists.mp said
  have told : heard poco report.serial connection = some running := by
    simp [heard, read, named]
  rw [told, Option.some_or] at entry
  rw [named] at row
  -- The events after it leave that alone.
  obtain ⟨rowKept, entryKept⟩ := undisturbed_run 
    (fun event member => keyed event (by simp [member])) undisturbed
    (step poco parse type (before.foldl (step poco parse type) start) (.report ctx connection))
  rw [List.foldl_append, List.foldl_cons, rowKept, entryKept]
  exact ⟨by rw [step, row]; rfl, by rw [step, row, entry]⟩

/-- The two objects differ when only one of the cached entry and the row has an age. -/
theorem not_agrees
    (differ : (FirmwareAgeHandler.ageOf type s.catalogue (cached s serialNumber)).isSome ≠
      (FirmwareAgeHandler.ageOf type s.catalogue (stored s serialNumber)).isSome) :
    ¬ Agrees type s serialNumber := by
  intro agrees
  rw [Agrees, selected_eq] at agrees
  -- Equal objects are both bare or both not.
  apply differ
  rw [Bool.eq_iff_iff, Option.isSome_iff_ne_none, Option.isSome_iff_ne_none, Ne, Ne,
    ← FirmwareAgeHandler.ageObject_eq_bare_iff (i := serialNumber),
    ← FirmwareAgeHandler.ageObject_eq_bare_iff (i := serialNumber), agrees]

/--
The age of each selected device is that of its last report since the last restart.

It is the one its row gives, as long as that report was written to the row, and neither a deletion
nor a restart has come since. Without such a report, or without an age for it, the object is bare.
-/
theorem selectedAges_run (poco : Poco) (parse : String → Option Nlohmann.Json) (type : DBType)
    (autoUpdaterEnabled : Bool) (p : Process) (events : List ProcessEvent)
    (keyed : ∀ event ∈ events, Keyed poco event) (parameters : FirmwareAgeHandler.Parameters) :
    let start := p.restart type autoUpdaterEnabled
    let reached := (events.foldl (step poco parse type) start).service
    let Select := stringTokens ',' parameters.select
    (Select ≠ [] → FirmwareAgeHandler.doGet type reached.catalogue reached.deviceCache parameters =
        .object (JsonObject.set [] "ages" (.array (Select.map fun i =>
          .object (FirmwareAgeHandler.ageObject type reached.catalogue i
            (lastReported poco i events)))))) ∧
      ∀ i ∈ Select,
        (FirmwareAgeHandler.ageObject type reached.catalogue i (lastReported poco i events) =
            FirmwareAgeHandler.bare i ↔
          FirmwareAgeHandler.ageOf type reached.catalogue (lastReported poco i events) = none) ∧
        (UpToDate poco parse type start i events →
          ∃ D, reached.tables.devices.lookup i = some D ∧
            lastReported poco i events = some (D.deviceType, D.revision)) := by
  intro start reached Select
  -- What is answered is read from the cache, and what is in the cache is known for all states.
  have entry (i : String) : cached reached i = lastReported poco i events :=
    cached_run poco parse type autoUpdaterEnabled p events i
  constructor
  · intro listed
    have objects (i : String) : FirmwareAgeHandler.selected type reached.catalogue
        reached.deviceCache i = FirmwareAgeHandler.ageObject type reached.catalogue i
          (lastReported poco i events) := by
      rw [selected_eq, entry]
    simp only [FirmwareAgeHandler.doGet, objects]
    exact if_pos listed
  · intro i _
    refine ⟨FirmwareAgeHandler.ageObject_eq_bare_iff, fun upToDate => ?_⟩
    obtain ⟨known, same⟩ := stored_of_upToDate keyed upToDate
    obtain ⟨running, said⟩ := Option.isSome_iff_exists.mp known
    obtain ⟨D, found, values⟩ := Option.map_eq_some_iff.mp said
    refine ⟨D, found, ?_⟩
    rw [← entry, values, ← said]
    exact same.symm

/-- A connection of the same device with a type that no firmware is known for. -/
def unknownTypeText : String :=
  "\x7b\"payload\":\x7b\"capabilities\":\x7b\"compatible\":\"eap102\"\x7d," ++
    "\"serial\":\"903cb3000001\",\"firmware\":\"r1\"\x7d\x7d"

/-- A parser that knows a ping of a device and that connection. -/
def agesPoco : Poco := .onDocuments
  [(NewConnectionHandler.pingText, .object [("payload", .object [("ping", .object
      [("compatible", .string "eap101"), ("serialNumber", .string "903cb3000001"),
        ("firmware", .string "r1")])])]),
    (unknownTypeText, .object [("payload", .object
      [("capabilities", .object [("compatible", .string "eap102")]),
        ("serial", .string "903cb3000001"), ("firmware", .string "r1")])])]

/-- The device pings, and then something else happens. -/
def pingedThen (events : List ProcessEvent) : List ProcessEvent :=
  .report { uuid := "a" } ("903cb3000001", NewConnectionHandler.pingText) :: events

/-- The service after such a run, which starts with a firmware for the type in the ping. -/
def afterPing (events : List ProcessEvent) : Service :=
  ((pingedThen events).foldl (step agesPoco NewCommandHandler.deletionParser .sqlite)
    (restart .sqlite true { service := NewConnectionHandler.knownType })).service

/-- The ping is read as one of its device. -/
theorem readMessage_pinged : NewConnectionHandler.readMessage agesPoco NewConnectionHandler.pingText =
    some (.ping "903cb3000001" "eap101" "r1" "") := by
  decide +kernel

/-- The ping comes with the serial number of its device. -/
theorem keyed_pinged {events : List ProcessEvent} (keyed : ∀ event ∈ events, Keyed agesPoco event) :
    ∀ event ∈ pingedThen events, Keyed agesPoco event := by
  -- The first event is the ping, whose key is its serial number.
  intro event member
  rcases List.mem_cons.mp member with rfl | later
  · intro report read
    rw [readMessage_pinged, Option.mem_some] at read
    rw [← read]
    rfl
  · exact keyed event later

/-- What is answered for a device that has pinged is what its row says. -/
theorem selectedAges_pinged :
    ∃ D, (afterPing []).tables.devices.lookup "903cb3000001" = some D ∧
      lastReported agesPoco "903cb3000001" (pingedThen []) = some (D.deviceType, D.revision) := by
  have answered := (selectedAges_run agesPoco NewCommandHandler.deletionParser .sqlite true
    { service := NewConnectionHandler.knownType } (pingedThen []) (keyed_pinged (by simp))
    { select := "903cb3000001" }).2 "903cb3000001" (by decide)
  unfold afterPing
  refine answered.2 ?_
  -- The ping is the last event, and its row is inserted.
  refine ⟨[], { uuid := "a" }, ("903cb3000001", NewConnectionHandler.pingText),
    .ping "903cb3000001" "eap101" "r1" "", [], rfl, readMessage_pinged, rfl, ?_, by simp⟩
  exact Or.inl rfl

/--
A row is left without an answer by a restart, and an answer without a row by a deletion; and a
connection whose age cannot be computed leaves a row with another type than it is answered for.
-/
theorem ages_disagree :
    (¬ ∀ (poco : Poco) (parse : String → Option Nlohmann.Json) (type : DBType)
        (autoUpdaterEnabled : Bool) (p : Process) (events : List ProcessEvent),
        (∀ event ∈ events, Keyed poco event) → ∀ serialNumber,
          Agrees type (events.foldl (step poco parse type) (p.restart type autoUpdaterEnabled)).service
            serialNumber) ∧
      ¬ Agrees .sqlite (afterPing [.restart true]) "903cb3000001" ∧
      ¬ Agrees .sqlite (afterPing [.command NewCommandHandler.deletion]) "903cb3000001" ∧
      ¬ Agrees .sqlite (afterPing [.report { uuid := "b" } ("903cb3000001", unknownTypeText)])
        "903cb3000001" := by
  -- Each time one of the two has an age and the other has none.
  have restarted : ¬ Agrees .sqlite (afterPing [.restart true]) "903cb3000001" :=
    not_agrees (by decide +kernel)
  refine ⟨fun agrees => restarted ?_, restarted, not_agrees ?_, not_agrees ?_⟩
  · unfold afterPing
    refine agrees agesPoco NewCommandHandler.deletionParser .sqlite true
      { service := NewConnectionHandler.knownType } (pingedThen [.restart true]) (keyed_pinged ?_)
      "903cb3000001"
    simp [Keyed]
  · decide +kernel
  · decide +kernel

end Process

end Fms
