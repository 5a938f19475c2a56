import Fms.Catalogue.FirmwaresDb
import Fms.Framework.Request

/-! `AutoUpdater`: devices wait in a queue, and a timer sends each of them its upgrade command. -/

namespace Fms

namespace SDK.Prov

/-- `GetFirmwareOptions`: its result, `firmwareUpgrade` and `firmwareRCOnly`, unless it throws. -/
def getFirmwareOptions (poco : Poco) (services : List Exchange) : Option (Bool × String × Bool) :=
  let (status, response) := OpenAPIRequestGet.doRequest poco services
  -- Both branches print the response, also where its pointer is null.
  if !poco.stringify response then none
  else if status = httpOk then do
    let response ← response
    let firmwareUpgrade ←
      if response.has "firmwareUpgrade" then poco.toString (response.get "firmwareUpgrade")
      else some "no"
    let firmwareRCOnly ←
      if response.has "firmwareRCOnly" then
        (poco.toString (response.get "firmwareRCOnly")).map fun text => decide (text = "true")
      else some false
    return (true, firmwareUpgrade, firmwareRCOnly)
  else some (false, "no", false)

end SDK.Prov

/-- `AutoUpdater::SerialCache`. -/
structure SerialCache where
  lastCheck : UInt64 := 0
  firmwareUpgrade : String := ""
  firmwareRCOnly : Bool := false
  deriving DecidableEq, Repr

/-- What the updater does that others can observe. -/
inductive UpdaterAction where
  /-- A call of `GetFirmwareOptions` at some time, and its outcome. -/
  | asked (serialNumber : String) (now : UInt64) (outcome : Option (Bool × String × Bool))
  /-- A call of `SendFirmwareUpgradeCommand` with the address of a firmware. -/
  | sent (serialNumber : String) (fwDetails : Firmware)
  | reset
  deriving DecidableEq, Repr

/-- The state of `AutoUpdater`. -/
structure AutoUpdater where
  autoUpdaterEnabled : Bool := true
  /-- Serial numbers with their device types. -/
  queue : List (String × String) := []
  cache : Std.ExtTreeMap String SerialCache := ∅
  /-- What has been done so far, the latest action first. -/
  actions : List UpdaterAction := []

/-- What one round of the loop in `onTimer` reads. -/
structure Turn where
  /-- `Utils::Now`. -/
  now : UInt64
  /-- The instances of the provisioning service. -/
  services : List Exchange
  catalogue : Catalogue

namespace AutoUpdater

/-- `ToBeUpgraded`. -/
def toBeUpgraded (s : AutoUpdater) (serialNumber deviceType : String) : AutoUpdater :=
  if !s.autoUpdaterEnabled then s else { s with queue := s.queue ++ [(serialNumber, deviceType)] }

/-- `Reset`. -/
def reset (s : AutoUpdater) : AutoUpdater :=
  { s with cache := ∅, queue := [], actions := .reset :: s.actions }

/-- The stored firmware that the newest entry of a device type points to. -/
def latestFirmware (c : Catalogue) (deviceType : String) : Option Firmware := do
  let fwEntry ← c.latestFirmwareCache.findLatestFirmware deviceType
  FirmwaresDB.getFirmware c fwEntry.id

/-- The end of a round, with the firmware option the round has read. -/
def sendUnlessRefused (turn : Turn) (entry : String × String) (firmwareUpgrade : String)
    (s : AutoUpdater) : AutoUpdater :=
  if firmwareUpgrade = "no" then s
  else
    match latestFirmware turn.catalogue entry.2 with
    | some fwDetails => { s with actions := .sent entry.1 fwDetails :: s.actions }
    | none => s

/-- A round has to ask for the options: none are cached, or the unsigned difference is large. -/
def mustAsk (now : UInt64) : Option SerialCache → Bool
  | some cacheEntry => cacheEntry.lastCheck - now > 300
  | none => true

/-- The body of the loop in `onTimer`, for an entry taken from the queue. -/
def upgrade (poco : Poco) (turn : Turn) (entry : String × String) (s : AutoUpdater) : AutoUpdater :=
  if mustAsk turn.now s.cache[entry.1]? then
    let outcome := SDK.Prov.getFirmwareOptions poco turn.services
    let s := { s with actions := .asked entry.1 turn.now outcome :: s.actions }
    match outcome with
    -- The handler around the body ends the round.
    | none => s
    | some (_, firmwareUpgrade, firmwareRCOnly) =>
      let c : SerialCache := ⟨turn.now, firmwareUpgrade, firmwareRCOnly⟩
      sendUnlessRefused turn entry firmwareUpgrade { s with cache := s.cache.insert entry.1 c }
  -- The option of the round stays empty when the cache has an entry.
  else sendUnlessRefused turn entry "" s

/-- One round of the loop in `onTimer`. -/
def round (poco : Poco) (s : AutoUpdater) (turn : Turn) : AutoUpdater :=
  match s.queue with
  | [] => s
  | entry :: queue => upgrade poco turn entry { s with queue }

/--
`onTimer`, given what each round reads until `Stop` ends the loop.

Rounds that find the queue empty do nothing.
-/
def onTimer (poco : Poco) (turns : List Turn) (s : AutoUpdater) : AutoUpdater :=
  turns.foldl (round poco) s

end AutoUpdater

end Fms
