import Fms.Upgrade.Actions

/-! When the updater respects that an owner has refused upgrades for a device. -/

namespace Fms.AutoUpdater

/-- The `firmwareUpgrade` option last obtained for a device, since the last reset. -/
@[grind =]
def lastObtained (serialNumber : String) : List UpdaterAction → Option String
  | [] => none
  | .reset :: _ => none
  | .asked asked _ (some (_, firmwareUpgrade, _)) :: before =>
    if asked = serialNumber then some firmwareUpgrade else lastObtained serialNumber before
  -- A question without an answer obtains nothing.
  | .asked _ _ none :: before => lastObtained serialNumber before
  | .sent .. :: before => lastObtained serialNumber before

/-- No command has been sent to a device whose last option was a refusal. -/
def Respected (actions : List UpdaterAction) : Prop :=
  ∀ (later : List UpdaterAction) (serialNumber : String) (fwDetails : Firmware)
    (before : List UpdaterAction), actions = later ++ .sent serialNumber fwDetails :: before →
    lastObtained serialNumber before ≠ some "no"

/-- The cache holds the option last obtained for each device. -/
def Remembers (s : AutoUpdater) : Prop :=
  ∀ serialNumber : String,
    (s.cache[serialNumber]?).map SerialCache.firmwareUpgrade = lastObtained serialNumber s.actions

/-- A round comes to a device with a refusal it does not ask for again, and has a firmware to send. -/
def reusesRefusal (s : AutoUpdater) (turn : Turn) : Bool :=
  match s.queue with
  | [] => false
  | (serialNumber, deviceType) :: _ =>
    !mustAsk turn.now s.cache[serialNumber]? &&
      (s.cache[serialNumber]?).map SerialCache.firmwareUpgrade = some "no" &&
      (latestFirmware turn.catalogue deviceType).isSome

/-- A call in which no round reuses a refusal. -/
def NoReuse (poco : Poco) (s : AutoUpdater) : UpdaterCall → Prop
  | .onTimer turns => Transition.Along (round poco) (fun s turn => reusesRefusal s turn = false) s turns
  | .toBeUpgraded .. => True
  | .reset => True

variable {poco : Poco} {turn : Turn} {entry : String × String} {s : AutoUpdater}

/-- Sending a command changes neither the cache nor what has been obtained. -/
theorem remembers_sendUnlessRefused (firmwareUpgrade : String) (remembers : Remembers s) :
    Remembers (sendUnlessRefused turn entry firmwareUpgrade s) := by
  -- A refused turn leaves the state as it is.
  intro serialNumber
  unfold sendUnlessRefused
  split
  · exact remembers serialNumber
  · -- A command in front of the actions is passed over.
    cases latestFirmware turn.catalogue entry.2 with
    | some fwDetails => exact remembers serialNumber
    | none => exact remembers serialNumber

/-- An option that has been obtained is remembered. -/
theorem remembers_obtained (remembers : Remembers s) (serialNumber : String) (now : UInt64)
    (result firmwareRCOnly : Bool) (firmwareUpgrade : String) :
    Remembers { s with
      actions := .asked serialNumber now (some (result, firmwareUpgrade, firmwareRCOnly)) :: s.actions
      cache := s.cache.insert serialNumber ⟨now, firmwareUpgrade, firmwareRCOnly⟩ } := by
  intro other
  have before := remembers other
  -- The entry of the device is replaced, and its option is now the last one.
  by_cases same : serialNumber = other
  · subst same
    simp [lastObtained]
  · simpa [lastObtained, same, Std.ExtTreeMap.getElem?_insert] using before

/-- An upgrade keeps the cache in step with the options obtained. -/
theorem remembers_upgrade (remembers : Remembers s) : Remembers (upgrade poco turn entry s) := by
  -- With a cached entry nothing is asked, and without an answer nothing is obtained.
  cases asks : mustAsk turn.now s.cache[entry.1]? with
  | false =>
    rw [upgrade_of_cached asks]
    exact remembers_sendUnlessRefused "" remembers
  | true =>
    cases outcome : SDK.Prov.getFirmwareOptions poco turn.services with
    | none =>
      rw [upgrade_of_exception asks outcome]
      exact remembers
    | some answer =>
      -- An answer enters the cache and the actions together.
      obtain ⟨result, firmwareUpgrade, firmwareRCOnly⟩ := answer
      rw [upgrade_of_answer asks outcome]
      apply remembers_sendUnlessRefused
      exact remembers_obtained remembers entry.1 turn.now result firmwareRCOnly firmwareUpgrade

/-- Being respected is a permission for each command that was sent. -/
theorem respected_iff {actions : List UpdaterAction} :
    Respected actions ↔
      EachSent (fun serialNumber _ before => lastObtained serialNumber before ≠ some "no") actions :=
  Iff.rfl

/-- A round that asks respects the owner, whatever the answer. -/
theorem respected_asking (asks : mustAsk turn.now s.cache[entry.1]? = true)
    (respected : Respected s.actions) : Respected (upgrade poco turn entry s).actions := by
  cases outcome : SDK.Prov.getFirmwareOptions poco turn.services with
  | none =>
    rw [upgrade_of_exception asks outcome]
    -- Without an answer the turn ends, and its question is no command.
    exact eachSent_quiet (by simp) respected
  | some answer =>
    obtain ⟨result, firmwareUpgrade, firmwareRCOnly⟩ := answer
    rw [upgrade_of_answer asks outcome, respected_iff]
    -- The option that decides is the one the round has just obtained.
    refine (eachSent_sendUnlessRefused firmwareUpgrade
      (eachSent_quiet (by simp) respected)).mpr ?_
    by_cases refused : firmwareUpgrade = "no"
    · exact Or.inl refused
    · right
      intro fwDetails _
      simpa [lastObtained] using refused

/-- A round respects the owner exactly when it does not reuse a refusal. -/
theorem respected_round (remembers : Remembers s) (respected : Respected s.actions) :
    Respected (round poco s turn).actions ↔ reusesRefusal s turn = false := by
  -- An empty queue sends nothing; otherwise the two ways through a turn are treated apart.
  unfold round reusesRefusal
  cases s.queue with
  | nil => simpa using respected
  | cons entry queue =>
    cases asks : mustAsk turn.now s.cache[entry.1]? with
    | true =>
      have asking : Respected (upgrade poco turn entry { s with queue }).actions :=
        respected_asking asks respected
      simpa [asks] using asking
    | false =>
      -- A round that does not ask goes by an empty option, which is never a refusal.
      have reused : upgrade poco turn entry { s with queue } =
          sendUnlessRefused turn entry "" { s with queue } := upgrade_of_cached asks
      have sending : Respected (sendUnlessRefused turn entry "" { s with queue }).actions ↔ _ :=
        eachSent_sendUnlessRefused "" respected
      simp only [reused, sending]
      cases latestFirmware turn.catalogue entry.2 <;> simp [asks, remembers entry.1]

/-- Every call keeps the cache in step with the options obtained. -/
theorem remembers_step (remembers : Remembers s) (call : UpdaterCall) :
    Remembers (step poco s call) := by
  refine invariant_step Remembers (fun _ _ remembers => remembers)
    (fun _ _ _ remembers => remembers_upgrade remembers) ?_ remembers call
  -- A reset empties the cache and forgets what was obtained before it.
  intro s _ serialNumber
  simp [reset, lastObtained]

/--
In every run the cache holds the options last obtained, and a run respects every refusal exactly
when no round of it reuses a cached one.

A round that reuses an entry goes by an empty option, so it sends the command the entry forbids.
-/
theorem respected_iff_noReuse (poco : Poco) (autoUpdaterEnabled : Bool) (calls : List UpdaterCall) :
    (∀ reached ∈ Transition.states (step poco) { autoUpdaterEnabled } calls, Remembers reached) ∧
      ((∀ reached ∈ Transition.states (step poco) { autoUpdaterEnabled } calls,
          Respected reached.actions) ↔
        Transition.Along (step poco) (NoReuse poco) { autoUpdaterEnabled } calls) := by
  -- Nothing is cached and nothing obtained at the start.
  have start : Remembers { autoUpdaterEnabled } := fun serialNumber => by simp [lastObtained]
  have always := Transition.along_true (step poco) { autoUpdaterEnabled } calls
  have reuse : NoReuse poco = AllRounds poco fun s turn => reusesRefusal s turn = false := by
    funext s call
    cases call <;> rfl
  -- The first part is what every step keeps; the second needs it at every round.
  constructor
  · exact Transition.invariant_along Remembers
      (fun _ call remembers _ => remembers_step remembers call) start always
  · rw [reuse]
    exact eachSent_iff_allRounds Remembers (fun _ call remembers => remembers_step remembers call)
      (fun _ _ remembers respected => respected_round remembers respected) start
      (by simp [EachSent]) calls

/-- The answer of an owner who refuses upgrades. -/
def refusalText : String := "\x7b\"firmwareUpgrade\":\"no\"\x7d"

/-- One round at a fixed time, with a firmware to send. -/
def roundWithFirmware : Turn where
  now := 1700000000
  services := [.answered httpOk refusalText]
  catalogue := (FirmwaresDB.addFirmware .sqlite { uuid := "f1" } {}
    { deviceType := "eap101", revision := "r2", uri := "https://images/r2.bin" }).2.2

/-- A device that is queued twice before the timer comes. -/
def queuedTwice : List UpdaterCall :=
  [.toBeUpgraded "903cb3000001" "eap101", .toBeUpgraded "903cb3000001" "eap101",
    .onTimer [roundWithFirmware, roundWithFirmware]]

/-- A parser that knows the refusal. -/
def refusalPoco : Poco :=
  .onDocuments [(refusalText, .object [("firmwareUpgrade", .string "no")])]

/-- The firmware of such a round, as it is stored. -/
def storedFirmware : Firmware :=
  { id := "f1", deviceType := "eap101", revision := "r2", uri := "https://images/r2.bin",
    latest := true }

/-- What the updater has done after such a pass, the latest action first. -/
theorem actions_queuedTwice :
    (queuedTwice.foldl (step refusalPoco) { autoUpdaterEnabled := true }).actions =
      [.sent "903cb3000001" storedFirmware,
        .asked "903cb3000001" 1700000000 (some (true, "no", false))] := by
  decide +kernel

/-- The second entry of such a device sends the command its owner has just refused. -/
theorem refusal_forgotten :
    ¬ ∀ (poco : Poco) (autoUpdaterEnabled : Bool) (calls : List UpdaterCall),
      ∀ reached ∈ Transition.states (step poco) { autoUpdaterEnabled } calls,
        Respected reached.actions := by
  intro respected
  have ends : queuedTwice.foldl (step refusalPoco) { autoUpdaterEnabled := true } ∈
      Transition.states (step refusalPoco) { autoUpdaterEnabled := true } queuedTwice :=
    Transition.last_mem_states _ queuedTwice
  -- The command comes right after the refusal it was sent against.
  exact respected refusalPoco true queuedTwice _ ends [] "903cb3000001" storedFirmware _
    actions_queuedTwice (by simp [lastObtained])

end Fms.AutoUpdater
