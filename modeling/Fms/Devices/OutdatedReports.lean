import Fms.Devices.Deletion
import Fms.Upgrade.Sending

/-! How many upgrade commands the reports of a device bring it in the pass that follows them. -/

namespace Fms

/-- The device type and the revision that a report names. -/
def Report.running : Report → Option (String × String)
  | connection _ deviceType revision _ => some (deviceType, revision)
  | disconnection .. => none
  | ping _ deviceType revision _ => some (deviceType, revision)

/-- An event that is neither a pass of the timer nor a reset. -/
def ServiceEvent.Between : ServiceEvent → Prop
  | .onTimer _ | .reset => False
  | .report .. | .command _ | .deleteEntry _ | .catalogue _ => True

namespace Service

/-- The entry an event adds to the queue: that of a report whose revision is not the latest one. -/
def outdated (poco : Poco) (s : Service) : ServiceEvent → Option (String × String)
  | .report _ connection => do
    let report ← NewConnectionHandler.readMessage poco connection.2
    let (deviceType, revision) ← report.running
    if s.autoUpdater.autoUpdaterEnabled &&
        !s.catalogue.latestFirmwareCache.isLatest deviceType revision then
      some (connection.1, deviceType)
    else none
  | .command _ | .onTimer _ | .reset | .deleteEntry _ | .catalogue _ => none

variable {poco : Poco} {parse : String → Option Nlohmann.Json} {type : DBType} {s : Service}

/-- What queueing a device adds to the queue, and what it leaves. -/
theorem queue_queueUnlessLatest (serialNumber deviceType revision : String) (s : Service) :
    (NewConnectionHandler.queueUnlessLatest serialNumber deviceType revision s).autoUpdater =
      { s.autoUpdater with
        queue := s.autoUpdater.queue ++
          (if s.autoUpdater.autoUpdaterEnabled &&
              !s.catalogue.latestFirmwareCache.isLatest deviceType revision then
            some (serialNumber, deviceType)
          else none).toList } := by
  unfold NewConnectionHandler.queueUnlessLatest
  -- Nothing is queued for the latest revision.
  cases s.catalogue.latestFirmwareCache.isLatest deviceType revision with
  | true => simp
  | false => simp [AutoUpdater.toBeUpgraded_eq]

/-- Between two passes an event adds what is outdated to the queue, and does nothing else to it. -/
theorem autoUpdater_step {event : ServiceEvent} (between : event.Between) (s : Service) :
    (step poco parse type s event).autoUpdater =
      { s.autoUpdater with
        queue := s.autoUpdater.queue ++ (outdated poco s event).toList } := by
  -- Only a report reaches the updater, and it reaches the queue alone.
  cases event with
  | onTimer turns => exact absurd between id
  | reset => exact absurd between id
  | command S => simp [step, outdated]
  | deleteEntry id => simp [step, outdated]
  | catalogue c => simp [step, outdated]
  | report ctx connection =>
    simp only [step, NewConnectionHandler.handle, outdated]
    cases NewConnectionHandler.readMessage poco connection.2 with
    | none => simp
    | some report =>
      cases report with
      | disconnection sNum endPoint => simp [NewConnectionHandler.applyReport, Report.running]
      | connection serial deviceType revision endPoint =>
        -- The tables are written first, and the updater does not depend on them.
        simp only [NewConnectionHandler.applyReport, queue_queueUnlessLatest]
        split <;> rfl
      | ping serial deviceType revision endPoint =>
        simp only [NewConnectionHandler.applyReport, queue_queueUnlessLatest]
        rfl

/-- A report that is queued names another revision than the newest entry of its type. -/
theorem outdated_report {ctx : DeviceContext} {connection : String × String} {report : Report}
    (read : NewConnectionHandler.readMessage poco connection.2 = some report)
    {deviceType revision : String} (running : report.running = some (deviceType, revision))
    {entry : String × String} (queued : entry ∈ outdated poco s (.report ctx connection)) :
    entry = (connection.1, deviceType) ∧
      s.catalogue.latestFirmwareCache.isLatest deviceType revision = false := by
  simp only [outdated, read, running, Option.bind_eq_bind, Option.bind_some, Option.mem_def] at queued
  -- The entry is there only where the comparison has failed.
  split at queued
  · rename_i older
    rw [Bool.and_eq_true, Bool.not_eq_true'] at older
    exact ⟨(Option.some.inj queued).symm, older.2⟩
  · contradiction

/-- The service after some events. -/
def run (poco : Poco) (parse : String → Option Nlohmann.Json) (type : DBType) (s : Service)
    (events : List ServiceEvent) : Service :=
  events.foldl (step poco parse type) s

/-- The entries that some events add to the queue. -/
def outdatedAlong (poco : Poco) (parse : String → Option Nlohmann.Json) (type : DBType) (s : Service)
    (events : List ServiceEvent) : List (String × String) :=
  Transition.outputs (outdated poco) (step poco parse type) s events

/-- Between two passes the events add to the queue what is outdated, and send nothing. -/
theorem autoUpdater_run (poco : Poco) (parse : String → Option Nlohmann.Json) (type : DBType)
    (s : Service) {events : List ServiceEvent} (between : ∀ event ∈ events, event.Between) :
    (run poco parse type s events).autoUpdater.queue =
        s.autoUpdater.queue ++ outdatedAlong poco parse type s events ∧
      (run poco parse type s events).autoUpdater.actions = s.autoUpdater.actions := by
  -- The queue collects the outputs of the run, and the actions are an invariant.
  have along := Transition.along_of_forall (step poco parse type) between s
  constructor
  · refine Transition.queue_foldl (fun s : Service => s.autoUpdater.queue) ?_ along
    intro s event between
    rw [autoUpdater_step between]
  · refine Transition.invariant_along
      (fun reached : Service => reached.autoUpdater.actions = s.autoUpdater.actions) ?_ rfl along _
      (Transition.last_mem_states s events)
    intro reached event same between
    rw [autoUpdater_step between, same]

/--
A pass sends to each device at most as many commands as reports of an outdated revision came under
its serial number since the pass before, and as its entries still were in the queue.

When every entry has a firmware and the provisioning service allows it, the pass sends as many.
-/
theorem commandsTo_le_outdated (poco : Poco) (parse : String → Option Nlohmann.Json) (type : DBType)
    (s : Service) (events : List ServiceEvent) (between : ∀ event ∈ events, event.Between)
    (serialNumber : String) :
    let after := run poco parse type s events
    let allowed := AutoUpdater.commandsTo serialNumber s.autoUpdater.actions +
      (AutoUpdater.waiting serialNumber s.autoUpdater.queue +
        AutoUpdater.waiting serialNumber (outdatedAlong poco parse type s events))
    (∀ turns, AutoUpdater.commandsTo serialNumber
        (after.autoUpdater.onTimer poco turns).actions ≤ allowed) ∧
      ∀ now services, AutoUpdater.Allows poco services →
        (∀ entry ∈ after.autoUpdater.queue,
          (AutoUpdater.latestFirmware after.catalogue entry.2).isSome = true) →
        AutoUpdater.commandsTo serialNumber (after.autoUpdater.onTimer poco
          (List.replicate after.autoUpdater.queue.length ⟨now, services, after.catalogue⟩)).actions =
          allowed := by
  intro after allowed
  obtain ⟨queue, actions⟩ := autoUpdater_run poco parse type s between
  -- Nothing has been sent since the last pass, and the queue has grown by what is outdated.
  have counted : AutoUpdater.commandsTo serialNumber after.autoUpdater.actions +
      AutoUpdater.waiting serialNumber after.autoUpdater.queue = allowed := by
    rw [actions, queue, AutoUpdater.waiting, List.map_append, List.count_append]
    rfl
  constructor
  · intro turns
    have bound := AutoUpdater.commandsTo_onTimer poco turns after.autoUpdater serialNumber
    omega
  · intro now services allows stored
    rw [AutoUpdater.commandsTo_onTimer_of_allows allows after.autoUpdater stored serialNumber]
    exact counted

/-- The answer of a provisioning service that lets a device be upgraded. -/
def allowedText : String := "\x7b\"firmwareUpgrade\":\"yes\"\x7d"

/-- A parser that knows the ping of a device and that answer. -/
def allowingPoco : Poco := .onDocuments
  [(NewConnectionHandler.pingText, .object [("payload", .object [("ping", .object
      [("compatible", .string "eap101"), ("serialNumber", .string "903cb3000001"),
        ("firmware", .string "r1")])])]),
    (allowedText, .object [("firmwareUpgrade", .string "yes")])]

/-- A device that sends the same ping twice. -/
def pingedTwice : List ServiceEvent :=
  [.report { uuid := "a" } ("903cb3000001", NewConnectionHandler.pingText),
    .report { uuid := "b" } ("903cb3000001", NewConnectionHandler.pingText)]

/-- A round over a service that allows the upgrade. -/
def allowingRound : Turn :=
  ⟨1700000000, [.answered httpOk allowedText], NewConnectionHandler.knownType.catalogue⟩

/-- However many rounds the pass has, a device that has pinged twice gets two commands at most. -/
theorem commandsTo_pingedTwice :
    AutoUpdater.commandsTo "903cb3000001" ((run allowingPoco (fun _ => none) .sqlite
      NewConnectionHandler.knownType pingedTwice).autoUpdater.onTimer allowingPoco
        [allowingRound, allowingRound, allowingRound]).actions ≤ 2 := by
  have between : ∀ event ∈ pingedTwice, event.Between := by
    simp [pingedTwice, ServiceEvent.Between]
  have bound := (commandsTo_le_outdated allowingPoco (fun _ => none) .sqlite
    NewConnectionHandler.knownType pingedTwice between "903cb3000001").1
    [allowingRound, allowingRound, allowingRound]
  -- Both pings report a revision that is not the latest one.
  have two : AutoUpdater.waiting "903cb3000001" (outdatedAlong allowingPoco (fun _ => none) .sqlite
      NewConnectionHandler.knownType pingedTwice) = 2 := by
    decide +kernel
  rw [two] at bound
  exact bound

/-- Two rounds are enough for both of them. -/
example : AutoUpdater.commandsTo "903cb3000001" ((run allowingPoco (fun _ => none) .sqlite
    NewConnectionHandler.knownType pingedTwice).autoUpdater.onTimer allowingPoco
      [allowingRound, allowingRound]).actions = 2 := by
  decide +kernel

/-- A device that has pinged twice is sent its upgrade twice in one pass. -/
theorem upgraded_twice :
    ¬ ∀ (poco : Poco) (parse : String → Option Nlohmann.Json) (type : DBType) (s : Service)
      (events : List ServiceEvent), s.autoUpdater.queue = [] →
      (∀ event ∈ events, ∃ ctx connection, event = .report ctx connection) →
      ∀ turns serialNumber,
        AutoUpdater.commandsTo serialNumber
            ((run poco parse type s events).autoUpdater.onTimer poco turns).actions ≤
          AutoUpdater.commandsTo serialNumber s.autoUpdater.actions + 1 := by
  -- Each of two rounds takes one of the two entries, and the answer allows both.
  intro once
  have bound := once allowingPoco (fun _ => none) .sqlite NewConnectionHandler.knownType pingedTwice
    rfl (by simp [pingedTwice]) [allowingRound, allowingRound] "903cb3000001"
  exact absurd bound (by decide +kernel)

end Service

end Fms
