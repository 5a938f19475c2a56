import Fms.Upgrade.Actions

/-! When devices that want release candidates only are sent nothing else. -/

namespace Fms.AutoUpdater

/-- The `firmwareRCOnly` option last obtained for a device; a reset obtains nothing. -/
def lastRCOnly (serialNumber : String) : List UpdaterAction → Option Bool
  | [] => none
  | .asked asked _ (some (_, _, firmwareRCOnly)) :: before =>
    if asked = serialNumber then some firmwareRCOnly else lastRCOnly serialNumber before
  | .asked _ _ none :: before => lastRCOnly serialNumber before
  | .sent .. :: before => lastRCOnly serialNumber before
  | .reset :: before => lastRCOnly serialNumber before

/-- A device whose last option asks for release candidates is sent nothing else. -/
def CandidatesOnly (actions : List UpdaterAction) : Prop :=
  EachSent (fun serialNumber fwDetails before => lastRCOnly serialNumber before = some true →
    LatestFirmwareCache.isRC fwDetails.revision = true) actions

/-- The cached options are the ones last obtained. -/
def RemembersRCOnly (s : AutoUpdater) : Prop :=
  ∀ (serialNumber : String) (c : SerialCache), s.cache[serialNumber]? = some c →
    lastRCOnly serialNumber s.actions = some c.firmwareRCOnly

/-- The options a round goes by: those it obtains, or else the cached choice without a refusal. -/
def optionsOfRound (poco : Poco) (turn : Turn) (cached : Option SerialCache) :
    Option (String × Bool) :=
  if mustAsk turn.now cached then (SDK.Prov.getFirmwareOptions poco turn.services).map Prod.snd
  else cached.map fun c => ("", c.firmwareRCOnly)

/--
A round that goes by a choice for release candidates finds one behind the newest entry.

The newest entry is the one over all images of the device type, candidates or not.
-/
def NewestIsCandidate (poco : Poco) (s : AutoUpdater) (turn : Turn) : Prop :=
  ∀ serialNumber deviceType queue firmwareUpgrade fwDetails,
    s.queue = (serialNumber, deviceType) :: queue →
    optionsOfRound poco turn s.cache[serialNumber]? = some (firmwareUpgrade, true) →
    firmwareUpgrade ≠ "no" → latestFirmware turn.catalogue deviceType = some fwDetails →
    LatestFirmwareCache.isRC fwDetails.revision = true

variable {poco : Poco} {turn : Turn} {entry : String × String} {s : AutoUpdater}

/-- Sending a command changes neither the cache nor what has been obtained. -/
theorem remembersRCOnly_sendUnlessRefused (firmwareUpgrade : String)
    (remembers : RemembersRCOnly s) :
    RemembersRCOnly (sendUnlessRefused turn entry firmwareUpgrade s) := by
  unfold sendUnlessRefused
  split
  · exact remembers
  · -- A command in front of the actions is passed over.
    cases latestFirmware turn.catalogue entry.2 with
    | some fwDetails => exact remembers
    | none => exact remembers

/-- A choice that has been obtained is remembered, and the others stay. -/
theorem remembersRCOnly_obtained (remembers : RemembersRCOnly s) (serialNumber : String)
    (now : UInt64) (result firmwareRCOnly : Bool) (firmwareUpgrade : String) :
    RemembersRCOnly { s with
      actions := .asked serialNumber now (some (result, firmwareUpgrade, firmwareRCOnly)) :: s.actions
      cache := s.cache.insert serialNumber ⟨now, firmwareUpgrade, firmwareRCOnly⟩ } := by
  intro other c found
  -- The device of the question is the only one whose entry is written.
  by_cases same : serialNumber = other
  · subst same
    have written : (⟨now, firmwareUpgrade, firmwareRCOnly⟩ : SerialCache) = c := by
      simpa using found
    simp [lastRCOnly, ← written]
  · -- The entries of the other devices are as before.
    have before : s.cache[other]? = some c := by
      simpa [Std.ExtTreeMap.getElem?_insert, same] using found
    simpa [lastRCOnly, same] using remembers other c before

/-- An upgrade keeps the cached choices in step with those obtained. -/
theorem remembersRCOnly_upgrade (remembers : RemembersRCOnly s) :
    RemembersRCOnly (upgrade poco turn entry s) := by
  -- A round that asks caches the answer, unless asking throws.
  cases asks : mustAsk turn.now s.cache[entry.1]? with
  | false =>
    rw [upgrade_of_cached asks]
    exact remembersRCOnly_sendUnlessRefused "" remembers
  | true =>
    cases outcome : SDK.Prov.getFirmwareOptions poco turn.services with
    | none =>
      rw [upgrade_of_exception asks outcome]
      exact remembers
    | some answer =>
      obtain ⟨result, firmwareUpgrade, firmwareRCOnly⟩ := answer
      rw [upgrade_of_answer asks outcome]
      apply remembersRCOnly_sendUnlessRefused
      exact remembersRCOnly_obtained remembers entry.1 turn.now result firmwareRCOnly firmwareUpgrade

/-- Every call keeps the cached choices in step with those obtained. -/
theorem remembersRCOnly_step (remembers : RemembersRCOnly s) (call : UpdaterCall) :
    RemembersRCOnly (step poco s call) := by
  refine invariant_step RemembersRCOnly (fun _ _ remembers => remembers)
    (fun _ _ _ remembers => remembersRCOnly_upgrade remembers) ?_ remembers call
  -- Queueing touches neither side, and a reset empties the cache.
  intro s _ serialNumber c found
  simp [reset] at found

/-- What options permit can be said of the options themselves. -/
theorem permitted_iff {firmwareUpgrade : String} {firmwareRCOnly : Bool} {latest : Option Firmware}
    {candidate : Firmware → Prop} :
    (firmwareUpgrade = "no" ∨
        ∀ fwDetails, latest = some fwDetails → firmwareRCOnly = true → candidate fwDetails) ↔
      ∀ option fwDetails, some (firmwareUpgrade, firmwareRCOnly) = some (option, true) →
        option ≠ "no" → latest = some fwDetails → candidate fwDetails := by
  -- The left side reads the options, the right side names them.
  constructor
  · intro permitted option fwDetails options accepted found
    obtain ⟨rfl, only⟩ : firmwareUpgrade = option ∧ firmwareRCOnly = true := by simpa using options
    rcases permitted with refused | all
    · exact absurd refused accepted
    · exact all fwDetails found only
  · intro all
    by_cases refused : firmwareUpgrade = "no"
    · exact Or.inl refused
    · right
      intro fwDetails found only
      exact all firmwareUpgrade fwDetails (by rw [only]) refused found

/-- An upgrade sends only candidates where it has to, exactly when the newest image is one. -/
theorem candidatesOnly_upgrade (remembers : RemembersRCOnly s) (only : CandidatesOnly s.actions) :
    CandidatesOnly (upgrade poco turn entry s).actions ↔
      ∀ firmwareUpgrade fwDetails,
        optionsOfRound poco turn s.cache[entry.1]? = some (firmwareUpgrade, true) →
        firmwareUpgrade ≠ "no" → latestFirmware turn.catalogue entry.2 = some fwDetails →
        LatestFirmwareCache.isRC fwDetails.revision = true := by
  unfold optionsOfRound
  -- The choice of the round is the cached one or the one it obtains.
  cases asks : mustAsk turn.now s.cache[entry.1]? with
  | false =>
    rw [upgrade_of_cached asks, CandidatesOnly, eachSent_sendUnlessRefused "" only]
    -- Without asking there is a cached choice, which is the one last obtained.
    cases cached : s.cache[entry.1]? with
    | none => simp [cached, mustAsk] at asks
    | some c =>
      have obtained := remembers entry.1 c cached
      simp only [obtained, Option.some.injEq]
      exact permitted_iff
  | true =>
    cases outcome : SDK.Prov.getFirmwareOptions poco turn.services with
    | none =>
      rw [upgrade_of_exception asks outcome]
      refine iff_of_true (eachSent_quiet (by simp) only) ?_
      simp
    | some answer =>
      -- The choice of the round is the one it has just obtained.
      obtain ⟨result, firmwareUpgrade, firmwareRCOnly⟩ := answer
      rw [upgrade_of_answer asks outcome, CandidatesOnly,
        eachSent_sendUnlessRefused firmwareUpgrade (eachSent_quiet (by simp) only)]
      simp only [lastRCOnly, if_true, Option.some.injEq]
      exact permitted_iff

/-- A round sends only candidates where it has to, exactly when the newest image is one. -/
theorem candidatesOnly_round (remembers : RemembersRCOnly s) (only : CandidatesOnly s.actions) :
    CandidatesOnly (round poco s turn).actions ↔ NewestIsCandidate poco s turn := by
  unfold round NewestIsCandidate
  cases s.queue with
  | nil => exact iff_of_true only (by simp)
  | cons entry queue =>
    have taken : RemembersRCOnly { s with queue } := remembers
    have sends : CandidatesOnly (upgrade poco turn entry { s with queue }).actions ↔ _ :=
      candidatesOnly_upgrade taken only
    rw [sends]
    -- The round takes the first device of the queue.
    constructor
    · rintro all serialNumber deviceType _ firmwareUpgrade fwDetails ⟨rfl, rfl⟩
      exact all firmwareUpgrade fwDetails
    · intro all firmwareUpgrade fwDetails
      exact all entry.1 entry.2 queue firmwareUpgrade fwDetails rfl

/--
In every run, devices that want release candidates only are sent nothing else, exactly when each
round that goes by such a choice finds a release candidate behind the newest entry.

The release candidate entries are never consulted, so an older candidate is not sent instead.
-/
theorem candidatesOnly_iff (poco : Poco) (autoUpdaterEnabled : Bool)
    (queue : List (String × String)) (calls : List UpdaterCall) :
    (∀ reached ∈ Transition.states (step poco) { autoUpdaterEnabled, queue } calls,
        CandidatesOnly reached.actions) ↔
      Transition.Along (step poco) (AllRounds poco (NewestIsCandidate poco))
        { autoUpdaterEnabled, queue } calls := by
  -- The cache is in step with the answers, which makes the condition exact for each round.
  have start : RemembersRCOnly { autoUpdaterEnabled, queue } := by
    intro serialNumber c found
    simp at found
  exact eachSent_iff_allRounds RemembersRCOnly
    (fun _ call remembers => remembersRCOnly_step remembers call)
    (fun _ _ remembers only => candidatesOnly_round remembers only) start (by simp [EachSent]) calls

/-- The answer of an owner who wants release candidates only. -/
def candidatesText : String :=
  "\x7b\"firmwareUpgrade\":\"yes\",\"firmwareRCOnly\":true\x7d"

/-- A parser that knows the answer. -/
def candidatesPoco : Poco :=
  .onDocuments [(candidatesText,
    .object [("firmwareUpgrade", .string "yes"), ("firmwareRCOnly", .bool true)])]

/-- One round over a release candidate and a newer image that is none. -/
def roundWithCandidate : Turn where
  now := 1700000000
  services := [.answered httpOk candidatesText]
  catalogue :=
    let c := (FirmwaresDB.addFirmware .sqlite { uuid := "f1" } {}
      { deviceType := "eap101", revision := "r1 / TIP-v2.5.0", imageDate := 50 }).2.2
    (FirmwaresDB.addFirmware .sqlite { uuid := "f2" } c
      { deviceType := "eap101", revision := "r2", uri := "https://images/r2.bin",
        imageDate := 80 }).2.2

/-- The newer image, as it is stored. -/
def newerFirmware : Firmware :=
  { id := "f2", deviceType := "eap101", revision := "r2", uri := "https://images/r2.bin",
    imageDate := 80, latest := true }

/-- One device in the queue, and one pass over it. -/
def candidatePass : List UpdaterCall :=
  [.toBeUpgraded "903cb3000001" "eap101", .onTimer [roundWithCandidate]]

/-- What the updater has done after that pass, the latest action first. -/
theorem actions_candidatePass :
    (candidatePass.foldl (step candidatesPoco) { autoUpdaterEnabled := true, queue := [] }).actions =
      [.sent "903cb3000001" newerFirmware,
        .asked "903cb3000001" 1700000000 (some (true, "yes", true))] := by
  decide +kernel

/-- A device that wants release candidates only is sent the newer image that is none. -/
theorem other_image_sent :
    ¬ ∀ (poco : Poco) (autoUpdaterEnabled : Bool) (queue : List (String × String))
      (calls : List UpdaterCall),
      ∀ reached ∈ Transition.states (step poco) { autoUpdaterEnabled, queue } calls,
        CandidatesOnly reached.actions := by
  intro only
  have ends : candidatePass.foldl (step candidatesPoco) { autoUpdaterEnabled := true, queue := [] } ∈
      Transition.states (step candidatesPoco) { autoUpdaterEnabled := true, queue := [] }
        candidatePass :=
    Transition.last_mem_states _ candidatePass
  -- The command comes right after the answer it was sent against.
  have candidate := only candidatesPoco true [] candidatePass _ ends [] "903cb3000001" newerFirmware _
    actions_candidatePass (by simp [lastRCOnly])
  -- The revision of the newer image has one part only.
  have other : LatestFirmwareCache.isRC newerFirmware.revision = false := by decide
  exact absurd (candidate.symm.trans other) (by decide)

end Fms.AutoUpdater
