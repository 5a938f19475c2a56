import Fms.Devices.Reports

/-! Connection messages and ping messages with the same values, and where their effects differ. -/

namespace Fms

/-- The values a connection message and a ping message have in common. -/
structure ReportValues where
  serial : String
  deviceType : String
  revision : String
  host : String

/-- A message with these values in `payload.capabilities`, `payload.serial` and `payload.firmware`. -/
def IsConnection (poco : Poco) (values : ReportValues) (message : String) : Prop :=
  ∃ object payload capabilities, poco.parseObject message = some object ∧
    NewConnectionHandler.readEndPoint poco object = some values.host ∧
    object.getObject "payload" = some payload ∧
    payload.getObject "capabilities" = some capabilities ∧ capabilities.has "compatible" ∧
    poco.toString (capabilities.get "compatible") = some values.deviceType ∧
    poco.toString (payload.get "serial") = some values.serial ∧
    poco.toString (payload.get "firmware") = some values.revision

/-- A message with these values in `payload.ping`, and nothing that is looked for before a ping. -/
def IsPing (poco : Poco) (values : ReportValues) (message : String) : Prop :=
  ∃ object payload ping, poco.parseObject message = some object ∧
    NewConnectionHandler.readEndPoint poco object = some values.host ∧
    object.getObject "payload" = some payload ∧
    payload.has "capabilities" = false ∧ payload.has "disconnection" = false ∧
    payload.getObject "ping" = some ping ∧
    ping.has "firmware" ∧ ping.has "serialNumber" ∧ ping.has "compatible" ∧
    poco.toString (ping.get "compatible") = some values.deviceType ∧
    poco.toString (ping.get "serialNumber") = some values.serial ∧
    poco.toString (ping.get "firmware") = some values.revision

/-- A member that is an object is a member. -/
theorem JsonObject.has_of_getObject {object member : JsonObject} {name : String}
    (found : object.getObject name = some member) : object.has name = true := by
  -- Without the name, `get` gives the empty value, which is no object.
  cases present : object.has name with
  | true => rfl
  | false =>
    have missing : object.find? (fun entry => entry.1 = name) = none := by
      apply List.find?_eq_none.mpr
      exact List.any_eq_false.mp present
    simp [JsonObject.getObject, JsonObject.get, missing, Var.extractObject] at found

namespace NewConnectionHandler

variable {poco : Poco} {values : ReportValues} {message : String}

/-- A connection message is read as a connection with its values. -/
theorem readMessage_connection (isConnection : IsConnection poco values message) :
    readMessage poco message =
      some (.connection values.serial values.deviceType values.revision values.host) := by
  -- The guards of the branch follow from the members it reads.
  obtain ⟨object, payload, capabilities, parsed, host, payloadObj, capObj, compatible, deviceType,
    serial, firmware⟩ := isConnection
  have hasPayload := JsonObject.has_of_getObject payloadObj
  have hasCapabilities := JsonObject.has_of_getObject capObj
  simp [readMessage, readConnection, trimRevision, parsed, host, hasPayload, payloadObj,
    hasCapabilities, capObj, compatible, deviceType, serial, firmware]

/-- A ping message is read as a ping with its values. -/
theorem readMessage_ping (isPing : IsPing poco values message) :
    readMessage poco message =
      some (.ping values.serial values.deviceType values.revision values.host) := by
  -- The two members looked for before a ping are absent by assumption.
  obtain ⟨object, payload, ping, parsed, host, payloadObj, noCapabilities, noDisconnection, pingObj,
    hasFirmware, hasSerial, hasCompatible, deviceType, serial, firmware⟩ := isPing
  have hasPayload := JsonObject.has_of_getObject payloadObj
  have hasPing := JsonObject.has_of_getObject pingObj
  simp [readMessage, readPing, trimRevision, parsed, host, hasPayload, payloadObj, noCapabilities,
    noDisconnection, hasPing, pingObj, hasFirmware, hasSerial, hasCompatible, deviceType, serial,
    firmware]

/-- The history without its generated ids. -/
def withoutIds (history : HistoryTable) : List RevisionHistoryEntry :=
  history.rows.map fun entry => { entry with id := "" }

variable {type : DBType} {c : Catalogue} {ctx : DeviceContext} {s : DeviceTables}

/-- The generated id leaves no trace in the devices table. -/
theorem devices_setDeviceRevision_uuid (otherId serialNumber revision deviceType endPoint : String) :
    (DevicesDB.setDeviceRevision type c { ctx with uuid := otherId } s serialNumber revision deviceType
      endPoint).2.devices =
    (DevicesDB.setDeviceRevision type c ctx s serialNumber revision deviceType endPoint).2.devices := by
  -- The id goes into a history entry, which is another table.
  unfold DevicesDB.setDeviceRevision
  cases Orm.getRecord s.devices serialNumber with
  | some D => rfl
  | none => rfl

/-- Two entries under new ids are added alike. -/
theorem withoutIds_createRecord (executed : Bool) (history : HistoryTable)
    {left right : RevisionHistoryEntry} (same : { left with id := "" } = { right with id := "" })
    (newLeft : ∀ entry ∈ history.rows, entry.id ≠ left.id)
    (newRight : ∀ entry ∈ history.rows, entry.id ≠ right.id) :
    withoutIds (Orm.createRecord executed history left).2 =
      withoutIds (Orm.createRecord executed history right).2 := by
  cases executed with
  | false => rfl
  | true =>
    -- Both insertions succeed, and append one entry each.
    obtain ⟨grownLeft, createdLeft, rowsLeft⟩ := Orm.createRecord_of_fresh left newLeft
    obtain ⟨grownRight, createdRight, rowsRight⟩ := Orm.createRecord_of_fresh right newRight
    rw [createdLeft, createdRight]
    show grownLeft.rows.map _ = grownRight.rows.map _
    rw [rowsLeft, rowsRight, List.map_append, List.map_append, List.map_singleton,
      List.map_singleton, same]

/-- Setting a revision leaves the same history under every new id, up to that id. -/
theorem history_setDeviceRevision_uuid {otherId : String}
    (new : ∀ entry ∈ s.history.rows, entry.id ≠ ctx.uuid ∧ entry.id ≠ otherId)
    (serialNumber revision deviceType endPoint : String) :
    withoutIds (DevicesDB.setDeviceRevision type c { ctx with uuid := otherId } s serialNumber revision
      deviceType endPoint).2.history =
    withoutIds (DevicesDB.setDeviceRevision type c ctx s serialNumber revision deviceType
      endPoint).2.history := by
  -- Only a stored device whose revision changes gets a history entry.
  unfold DevicesDB.setDeviceRevision
  cases Orm.getRecord s.devices serialNumber with
  | none => rfl
  | some D =>
    by_cases changed : D.revision ≠ revision
    · simp only [if_pos changed]
      apply withoutIds_createRecord
      · rfl
      · intro entry stored
        exact (new entry stored).2
      · intro entry stored
        exact (new entry stored).1
    · simp only [if_neg changed]

/-- Queueing a device touches the updater alone. -/
@[simp] theorem queueUnlessLatest_tables (serialNumber deviceType revision : String) (s : Service) :
    (queueUnlessLatest serialNumber deviceType revision s).tables = s.tables := by
  unfold queueUnlessLatest
  split <;> rfl

/-- Queueing a device touches no cached entry. -/
@[simp] theorem queueUnlessLatest_deviceCache (serialNumber deviceType revision : String)
    (s : Service) :
    (queueUnlessLatest serialNumber deviceType revision s).deviceCache = s.deviceCache := by
  unfold queueUnlessLatest
  split <;> rfl

/-- Queueing a device touches no firmware. -/
@[simp] theorem queueUnlessLatest_catalogue (serialNumber deviceType revision : String)
    (s : Service) :
    (queueUnlessLatest serialNumber deviceType revision s).catalogue = s.catalogue := by
  unfold queueUnlessLatest
  split <;> rfl

/-- Whether a device is queued depends on the catalogue and the updater. -/
theorem queueUnlessLatest_autoUpdater {serialNumber deviceType revision : String}
    {left right : Service} (catalogue : left.catalogue = right.catalogue)
    (autoUpdater : left.autoUpdater = right.autoUpdater) :
    (queueUnlessLatest serialNumber deviceType revision left).autoUpdater =
      (queueUnlessLatest serialNumber deviceType revision right).autoUpdater := by
  -- The catalogue decides, and the updater is what is changed.
  unfold queueUnlessLatest
  rw [catalogue, autoUpdater]
  split
  · rfl
  · exact autoUpdater

/--
What a connection and a ping with the same values leave, each from the same state before it.

The cache entries and the queue are the same. When the age of the firmware can be computed, so are
the devices and the history up to generated ids. Otherwise the ping sets the revision of the device,
and the connection does not.
-/
structure ReportsAgree (type : DBType) (pingContext : DeviceContext) (values : ReportValues)
    (before connected pinged : Service) : Prop where
  deviceCache : connected.deviceCache = pinged.deviceCache
  autoUpdater : connected.autoUpdater = pinged.autoUpdater
  catalogue : connected.catalogue = pinged.catalogue
  ageKnown : (FirmwaresDB.computeFirmwareAge type before.catalogue values.deviceType
      values.revision).isSome = true →
    connected.tables.devices = pinged.tables.devices ∧
      withoutIds connected.tables.history = withoutIds pinged.tables.history
  ageUnknown : (FirmwaresDB.computeFirmwareAge type before.catalogue values.deviceType
      values.revision).isSome = false →
    connected.tables = before.tables ∧
      pinged.tables = (DevicesDB.setDeviceRevision type before.catalogue pingContext before.tables
        values.serial values.revision values.deviceType values.host).2

/-- Connection and ping messages agree, up to the guard around the tables in the connection branch. -/
theorem connection_agrees_with_ping (poco : Poco) (type : DBType) (ctx : DeviceContext)
    (otherId : String) (s : Service) {values : ReportValues} {connection ping : String}
    (isConnection : IsConnection poco values connection) (isPing : IsPing poco values ping)
    (new : ∀ entry ∈ s.tables.history.rows, entry.id ≠ ctx.uuid ∧ entry.id ≠ otherId) :
    ReportsAgree type { ctx with uuid := otherId } values s
      (handle poco type ctx s (values.serial, connection))
      (handle poco type { ctx with uuid := otherId } s (values.serial, ping)) := by
  simp only [handle, readMessage_connection isConnection, readMessage_ping isPing]
  constructor
  · -- Neither branch reads the cache it writes to before, so the order of the updates is free.
    simp only [applyReport, queueUnlessLatest_deviceCache]
    split <;> rfl
  · simp only [applyReport]
    split <;> exact queueUnlessLatest_autoUpdater rfl rfl
  · simp only [applyReport, queueUnlessLatest_catalogue]
    split <;> rfl
  · -- With a known age both set the revision, under ids of their own.
    intro known
    simp only [applyReport, known, if_true, queueUnlessLatest_tables]
    exact ⟨(devices_setDeviceRevision_uuid ..).symm, (history_setDeviceRevision_uuid new ..).symm⟩
  · -- Without one the connection leaves the tables alone.
    intro unknown
    simp [applyReport, unknown]

/-- A connection message of one device. -/
def connectionText : String :=
  "\x7b\"payload\":\x7b\"capabilities\":\x7b\"compatible\":\"eap101\"\x7d," ++
    "\"serial\":\"903cb3000001\",\"firmware\":\"r1\"\x7d\x7d"

/-- A ping message of the same device. -/
def pingText : String :=
  "\x7b\"payload\":\x7b\"ping\":\x7b\"compatible\":\"eap101\"," ++
    "\"serialNumber\":\"903cb3000001\",\"firmware\":\"r1\"\x7d\x7d\x7d"

/-- A parser that knows both messages. -/
def reportPoco : Poco := .onDocuments
  [(connectionText, .object [("payload", .object
      [("capabilities", .object [("compatible", .string "eap101")]),
        ("serial", .string "903cb3000001"), ("firmware", .string "r1")])]),
    (pingText, .object [("payload", .object [("ping", .object
      [("compatible", .string "eap101"), ("serialNumber", .string "903cb3000001"),
        ("firmware", .string "r1")])])])]

/-- The values of both messages. -/
def reportValues : ReportValues := ⟨"903cb3000001", "eap101", "r1", ""⟩

/-- The first message is a connection. -/
theorem isConnection_connectionText : IsConnection reportPoco reportValues connectionText :=
  ⟨_, _, _, rfl, rfl, rfl, rfl, rfl, rfl, rfl, rfl⟩

/-- The second message is a ping. -/
theorem isPing_pingText : IsPing reportPoco reportValues pingText :=
  ⟨_, _, _, rfl, rfl, rfl, rfl, rfl, rfl, rfl, rfl, rfl, rfl, rfl, rfl⟩

/-- A service that knows a firmware of the device type. -/
def knownType : Service where
  catalogue := (FirmwaresDB.addFirmware .sqlite { uuid := "f1" } {}
    { deviceType := "eap101", revision := "r2", uri := "https://images/r2.bin" }).2.2

/-- With a known device type both messages leave the same devices. -/
theorem connection_agrees_knownType :
    (handle reportPoco .sqlite { uuid := "a" } knownType
      (reportValues.serial, connectionText)).tables.devices =
    (handle reportPoco .sqlite { uuid := "b" } knownType
      (reportValues.serial, pingText)).tables.devices := by
  -- The age can be computed here, so the first of the two cases applies.
  have age : (FirmwaresDB.computeFirmwareAge .sqlite knownType.catalogue reportValues.deviceType
      reportValues.revision).isSome = true := by decide +kernel
  have agree : ReportsAgree .sqlite { uuid := "b" } reportValues knownType
      (handle reportPoco .sqlite { uuid := "a" } knownType (reportValues.serial, connectionText))
      (handle reportPoco .sqlite { uuid := "b" } knownType (reportValues.serial, pingText)) :=
    connection_agrees_with_ping reportPoco .sqlite { uuid := "a" } "b" knownType
      isConnection_connectionText isPing_pingText (fun _ stored => nomatch stored)
  exact (agree.ageKnown age).1

/-- Without a firmware of the device type only the ping creates the row of the device. -/
theorem connection_differs_from_ping :
    ¬ ∀ (poco : Poco) (type : DBType) (ctx : DeviceContext) (otherId : String) (s : Service)
      (values : ReportValues) (connection ping : String),
      IsConnection poco values connection → IsPing poco values ping →
      (∀ entry ∈ s.tables.history.rows, entry.id ≠ ctx.uuid ∧ entry.id ≠ otherId) →
      (handle poco type ctx s (values.serial, connection)).tables.devices.lookup values.serial =
        (handle poco type { ctx with uuid := otherId } s (values.serial, ping)).tables.devices.lookup
          values.serial := by
  -- The empty catalogue knows no age, so the connection stops before the tables.
  intro same
  have row := same reportPoco .sqlite { uuid := "a" } "b" {} reportValues connectionText pingText
    isConnection_connectionText isPing_pingText (fun _ stored => nomatch stored)
  exact absurd row (by decide +kernel)

end NewConnectionHandler

end Fms
