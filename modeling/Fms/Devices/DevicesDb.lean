import Fms.Catalogue.FirmwaresDb
import Mathlib.Data.List.Sort

/-! `DevicesDB` and `HistoryDB`: the current revision of each device, and how it got there. -/

namespace Fms

/-- The `devices` and `history` tables. -/
structure DeviceTables where
  devices : DevicesTable := KeyedTable.empty
  history : HistoryTable := KeyedTable.empty

/-- What a call takes from outside. -/
structure DeviceContext where
  /-- `Utils::Now`. -/
  now : UInt64 := 0
  /-- The id generated for a history entry. -/
  uuid : String
  /-- Whether the database executes an insertion into `history`, and one into `devices`. -/
  historyExecuted : Bool := true
  deviceExecuted : Bool := true

namespace HistoryDB

/-- `AddHistory`, which looks up the new revision among the stored firmwares. -/
def addHistory (type : DBType) (c : Catalogue) (ctx : DeviceContext) (history : HistoryTable)
    (serialNumber deviceType previousRevision newVersion : String) : Bool × HistoryTable :=
  let revisionId :=
    match FirmwaresDB.getFirmwareByRevision type c newVersion deviceType with
    | some F => F.id
    | none => "unknown"
  Orm.createRecord ctx.historyExecuted history {
    id := ctx.uuid
    serialNumber := serialNumber
    fromRelease := previousRevision
    toRelease := newVersion
    commandUUID := ""
    revisionId := revisionId
    upgraded := ctx.now }

/-- The clause for the entries of a device. -/
def serialClause (serialNumber : String) : String :=
  " serialNumber='" ++ serialNumber ++ "' "

/-- `GetHistory`: a page of the entries of a device, the latest upgrade first. -/
def getHistory (type : DBType) (history : HistoryTable) (serialNumber : String)
    (offset howMany : Nat) : Option (List RevisionHistoryEntry) := do
  let rows ← Orm.matching type history (serialClause serialNumber)
  let ordered := rows.insertionSort fun left right => bigint right.upgraded ≤ bigint left.upgraded
  let page := (ordered.drop offset).take howMany
  if page.isEmpty then none else some page

/-- `DeleteHistory`, for all the entries of a device. -/
def deleteHistory (type : DBType) (history : HistoryTable) (serialNumber : String) :
    Bool × HistoryTable :=
  Orm.deleteRecords type history (serialClause serialNumber)

/-- `DeleteHistory`, for one entry; the serial number it is given as well is not used. -/
def deleteHistoryEntry (history : HistoryTable) (id : String) : Bool × HistoryTable :=
  Orm.deleteRecord history id

/-- The clause for a spelled serial number selects the entries of the device. -/
theorem serialClause_denotes {dialect : Sql.Dialect} {text serialNumber : String}
    (spelled : Sql.Spells dialect text serialNumber) :
    Sql.whereClause dialect historySchema.columns (serialClause text) =
      some fun row => decide (row.serialNumber = serialNumber) := by
  -- The literal is read in one piece, and it is all the clause compares with.
  have tokens := Sql.lex_one_literal spelled " serialNumber='" "' "
    [.word "serialNumber", .symbol "="] (fun read => [.literal (String.ofList read)]) rfl
    fun _ => rfl
  have parsed (value : String) : Sql.parseCondition [.word "serialNumber", .symbol "=",
      .literal value] = some (.compare "serialNumber" .eq (.text value)) := rfl
  have compiled (value : String) :
      (Sql.Condition.compare "serialNumber" .eq (.text value)).compile historySchema.columns =
      some fun row => decide (row.serialNumber = value) :=
    congrArg some (funext fun row => Sql.holds_eq row.serialNumber value)
  rw [String.ofList_toList] at tokens
  exact Sql.whereClause_eq_some tokens (parsed serialNumber) (compiled serialNumber)

end HistoryDB

namespace DevicesDB

/-- `SetDeviceRevision`; a failure to add to the history is not noticed. -/
def setDeviceRevision (type : DBType) (c : Catalogue) (ctx : DeviceContext) (s : DeviceTables)
    (serialNumber revision deviceType endPoint : String) : Bool × DeviceTables :=
  match Orm.getRecord s.devices serialNumber with
  | some D =>
    let history :=
      if D.revision ≠ revision then
        (HistoryDB.addHistory type c ctx s.history serialNumber deviceType D.revision revision).2
      else s.history
    let (updated, devices) := Orm.updateRecord s.devices serialNumber
      { D with
        revision := revision
        deviceType := deviceType
        endPoint := endPoint
        status := "connected" }
    (updated, ⟨devices, history⟩)
  | none =>
    let (created, devices) := Orm.createRecord ctx.deviceExecuted s.devices {
      serialNumber := serialNumber
      revision := revision
      deviceType := deviceType
      endPoint := endPoint
      lastUpdate := ctx.now
      status := "connected" }
    (created, { s with devices })

/-- `SetDeviceDisconnected`. -/
def setDeviceDisconnected (s : DeviceTables) (serialNumber endPoint : String) :
    Bool × DeviceTables :=
  match Orm.getRecord s.devices serialNumber with
  | some D =>
    let (updated, devices) := Orm.updateRecord s.devices serialNumber
      { D with
        status := "not connected"
        endPoint := endPoint }
    (updated, { s with devices })
  | none => (false, s)

/-- `GetDevice`. -/
def getDevice (devices : DevicesTable) (serialNumber : String) :
    Option DeviceConnectionInformation :=
  Orm.getRecord devices serialNumber

/-- `DeleteDevice`. -/
def deleteDevice (devices : DevicesTable) (serialNumber : String) : Bool × DevicesTable :=
  Orm.deleteRecord devices serialNumber

end DevicesDB

end Fms
