import Fms.Upgrade.AutoUpdater
import Fms.Relation.Run

/-! What the updater has done so far, and when every command it has sent was allowed. -/

namespace Fms

/-- The calls that reach the updater. -/
inductive UpdaterCall where
  | toBeUpgraded (serialNumber deviceType : String)
  | onTimer (turns : List Turn)
  | reset

namespace AutoUpdater

/-- The updater after a call. -/
def step (poco : Poco) (s : AutoUpdater) : UpdaterCall → AutoUpdater
  | .toBeUpgraded serialNumber deviceType => s.toBeUpgraded serialNumber deviceType
  | .onTimer turns => onTimer poco turns s
  | .reset => s.reset

/-- Each command was allowed by what had been done before it was sent. -/
def EachSent (allowed : String → Firmware → List UpdaterAction → Prop)
    (actions : List UpdaterAction) : Prop :=
  ∀ (later : List UpdaterAction) (serialNumber : String) (fwDetails : Firmware)
    (before : List UpdaterAction), actions = later ++ .sent serialNumber fwDetails :: before →
    allowed serialNumber fwDetails before

/-- A call all of whose rounds meet a condition. -/
def AllRounds (poco : Poco) (condition : AutoUpdater → Turn → Prop) (s : AutoUpdater) :
    UpdaterCall → Prop
  | .onTimer turns => Transition.Along (round poco) condition s turns
  | .toBeUpgraded .. => True
  | .reset => True

variable {poco : Poco} {turn : Turn} {entry : String × String} {s : AutoUpdater}
  {allowed : String → Firmware → List UpdaterAction → Prop} {before : List UpdaterAction}

/-- One more command has to be allowed by the actions before it. -/
theorem eachSent_sent {serialNumber : String} {fwDetails : Firmware} :
    EachSent allowed (.sent serialNumber fwDetails :: before) ↔
      allowed serialNumber fwDetails before ∧ EachSent allowed before := by
  constructor
  · intro all
    refine ⟨all [] serialNumber fwDetails before rfl, ?_⟩
    intro later other sent earlier split
    apply all (.sent serialNumber fwDetails :: later) other sent earlier
    rw [split, List.cons_append]
  · rintro ⟨first, all⟩ later other sent earlier split
    -- The command is the first action, or one of those before it.
    cases later with
    | nil =>
      obtain ⟨⟨rfl, rfl⟩, rfl⟩ : (serialNumber = other ∧ fwDetails = sent) ∧ before = earlier := by
        simpa using split
      exact first
    | cons action rest =>
      have inside : before = rest ++ .sent other sent :: earlier := (List.cons.inj split).2
      exact all rest other sent earlier inside

/-- An action that sends nothing needs no permission. -/
theorem eachSent_quiet {action : UpdaterAction}
    (quiet : ∀ serialNumber fwDetails, action ≠ .sent serialNumber fwDetails)
    (all : EachSent allowed before) : EachSent allowed (action :: before) := by
  -- Such an action cannot be the command in front, so every command is among the older actions.
  intro later other sent earlier split
  cases later with
  | nil => exact absurd (List.cons.inj split).1 (quiet other sent)
  | cons first rest =>
    have inside : before = rest ++ .sent other sent :: earlier := (List.cons.inj split).2
    exact all rest other sent earlier inside

/-- What is allowed in a longer list of actions is allowed in its older part. -/
theorem eachSent_of_append {added : List UpdaterAction}
    (all : EachSent allowed (added ++ before)) : EachSent allowed before := by
  -- A command in the older part has the same actions before it.
  intro later serialNumber fwDetails earlier split
  apply all (added ++ later) serialNumber fwDetails earlier
  rw [split, List.append_assoc]

/-- The end of a round sends nothing that needs permission, or what it sends is allowed. -/
theorem eachSent_sendUnlessRefused (firmwareUpgrade : String) (all : EachSent allowed s.actions) :
    EachSent allowed (sendUnlessRefused turn entry firmwareUpgrade s).actions ↔
      (firmwareUpgrade = "no" ∨ ∀ fwDetails,
        latestFirmware turn.catalogue entry.2 = some fwDetails →
          allowed entry.1 fwDetails s.actions) := by
  unfold sendUnlessRefused
  -- A refusal sends nothing, and neither does a type without a firmware.
  by_cases refused : firmwareUpgrade = "no"
  · simp [refused, all]
  · cases latestFirmware turn.catalogue entry.2 with
    | some fwDetails => simp [refused, all, eachSent_sent]
    | none => simp [refused, all]

/-- Some actions, none of which sends anything to a device. -/
def SendsNothingTo (serialNumber : String) (actions : List UpdaterAction) : Prop :=
  ∀ fwDetails, .sent serialNumber fwDetails ∉ actions

/-- The end of a round adds at most a command to the device of the round. -/
theorem actions_sendUnlessRefused (turn : Turn) (entry : String × String) (firmwareUpgrade : String)
    (s : AutoUpdater) :
    ∃ added, (sendUnlessRefused turn entry firmwareUpgrade s).actions = added ++ s.actions ∧
      ∀ other, entry.1 ≠ other → SendsNothingTo other added := by
  unfold sendUnlessRefused
  -- The only action there can be is the command to the device of the round.
  split
  · exact ⟨[], rfl, fun _ _ _ => List.not_mem_nil⟩
  · cases latestFirmware turn.catalogue entry.2 with
    | none => exact ⟨[], rfl, fun _ _ _ => List.not_mem_nil⟩
    | some fwDetails =>
      refine ⟨[.sent entry.1 fwDetails], rfl, fun other apart sent member => apart ?_⟩
      have same := List.mem_singleton.mp member
      injection same with serials
      exact serials.symm

/-- A round that gets an answer remembers it and goes by it. -/
theorem upgrade_of_answer (asks : mustAsk turn.now s.cache[entry.1]? = true)
    {result firmwareRCOnly : Bool} {firmwareUpgrade : String}
    (answer : SDK.Prov.getFirmwareOptions poco turn.services =
      some (result, firmwareUpgrade, firmwareRCOnly)) :
    upgrade poco turn entry s = sendUnlessRefused turn entry firmwareUpgrade { s with
      actions := .asked entry.1 turn.now (some (result, firmwareUpgrade, firmwareRCOnly)) ::
        s.actions
      cache := s.cache.insert entry.1 ⟨turn.now, firmwareUpgrade, firmwareRCOnly⟩ } := by
  -- The answer enters the cache before the round goes by it.
  rw [upgrade, if_pos asks, answer]

/-- A round whose question throws does nothing else. -/
theorem upgrade_of_exception (asks : mustAsk turn.now s.cache[entry.1]? = true)
    (thrown : SDK.Prov.getFirmwareOptions poco turn.services = none) :
    upgrade poco turn entry s =
      { s with actions := .asked entry.1 turn.now none :: s.actions } := by
  rw [upgrade, if_pos asks, thrown]

/-- A round that does not ask goes by an empty option, whatever the cache says. -/
theorem upgrade_of_cached (silent : mustAsk turn.now s.cache[entry.1]? = false) :
    upgrade poco turn entry s = sendUnlessRefused turn entry "" s := by
  rw [upgrade, silent]
  rfl

/-- What was done before an upgrade stays, and only the device of the upgrade is sent anything. -/
theorem actions_upgrade (poco : Poco) (turn : Turn) (entry : String × String) (s : AutoUpdater) :
    ∃ added, (upgrade poco turn entry s).actions = added ++ s.actions ∧
      ∀ other, entry.1 ≠ other → SendsNothingTo other added := by
  -- A round that does not ask adds a command at most.
  cases asks : mustAsk turn.now s.cache[entry.1]? with
  | false =>
    rw [upgrade_of_cached asks]
    exact actions_sendUnlessRefused turn entry "" s
  | true =>
    -- A round that asks puts the question below whatever it sends.
    cases outcome : SDK.Prov.getFirmwareOptions poco turn.services with
    | none =>
      rw [upgrade_of_exception asks outcome]
      exact ⟨[.asked entry.1 turn.now none], rfl, fun other _ fwDetails => by simp⟩
    | some answer =>
      obtain ⟨result, firmwareUpgrade, firmwareRCOnly⟩ := answer
      rw [upgrade_of_answer asks outcome]
      obtain ⟨added, grown, others⟩ := actions_sendUnlessRefused turn entry firmwareUpgrade _
      refine ⟨added ++ [.asked entry.1 turn.now (some (result, firmwareUpgrade, firmwareRCOnly))],
        by rw [grown, List.append_assoc, List.singleton_append], fun other apart fwDetails => ?_⟩
      simpa using others other apart fwDetails

/-- What was done before a round stays part of what has been done. -/
theorem actions_round (poco : Poco) (s : AutoUpdater) (turn : Turn) :
    ∃ added, (round poco s turn).actions = added ++ s.actions := by
  -- A round with an empty queue adds nothing.
  unfold round
  cases s.queue with
  | nil => exact ⟨[], rfl⟩
  | cons entry queue =>
    obtain ⟨added, grown, _⟩ := actions_upgrade poco turn entry { s with queue }
    exact ⟨added, grown⟩

/-- What does not depend on the queue is kept by every call, if upgrades and resets keep it. -/
theorem invariant_step (invariant : AutoUpdater → Prop)
    (anyQueue : ∀ s queue, invariant s → invariant { s with queue })
    (upgrades : ∀ turn entry s, invariant s → invariant (upgrade poco turn entry s))
    (resets : ∀ s, invariant s → invariant s.reset) (held : invariant s) (call : UpdaterCall) :
    invariant (step poco s call) := by
  cases call with
  | toBeUpgraded serialNumber deviceType =>
    -- Queueing a device changes the queue or nothing.
    simp only [step, toBeUpgraded]
    split
    · exact held
    · exact anyQueue s _ held
  | reset => exact resets s held
  | onTimer turns =>
    -- The rounds of the pass keep it one after the other.
    show invariant (turns.foldl (round poco) s)
    induction turns generalizing s with
    | nil => exact held
    | cons turn rest ih =>
      refine ih ?_
      unfold round
      cases s.queue with
      | nil => exact held
      | cons entry queue => exact upgrades turn entry _ (anyQueue s queue held)

/--
Along a run the actions have a property exactly when every round meets a condition.

The property has to hold of the older part of the actions as well, and a reset must not break it. The
condition has to be exact for one round, given an invariant that all calls keep and what is assumed
of every round.
-/
theorem property_iff_allRounds (property : List UpdaterAction → Prop)
    (older : ∀ added before, property (added ++ before) → property before)
    (resets : ∀ before, property before → property (.reset :: before))
    (invariant : AutoUpdater → Prop) {assumed condition : AutoUpdater → Turn → Prop}
    (kept : ∀ s call, invariant s → invariant (step poco s call))
    (exact_ : ∀ s turn, invariant s → property s.actions → assumed s turn →
      (property (round poco s turn).actions ↔ condition s turn))
    (initial : invariant s) (start : property s.actions) {calls : List UpdaterCall}
    (assumptions : Transition.Along (step poco) (AllRounds poco assumed) s calls) :
    (∀ reached ∈ Transition.states (step poco) s calls, property reached.actions) ↔
      Transition.Along (step poco) (AllRounds poco condition) s calls := by
  -- A round never takes an action back, so the end of a pass tells about all of its rounds.
  have pass (s : AutoUpdater) (turns : List Turn) (invariant_ : invariant s)
      (all : property s.actions) (met : Transition.Along (round poco) assumed s turns) :
      property (onTimer poco turns s).actions ↔
        Transition.Along (round poco) condition s turns := by
    have last : (∀ reached ∈ Transition.states (round poco) s turns, property reached.actions) ↔
        property (onTimer poco turns s).actions := by
      apply Transition.forall_states_iff_last (fun s : AutoUpdater => property s.actions)
      intro s turn after
      obtain ⟨added, grown⟩ := actions_round poco s turn
      rw [grown] at after
      exact older added s.actions after
    rw [← last]
    exact Transition.property_iff_along (fun s : AutoUpdater => property s.actions) invariant
      (fun s turn held _ _ _ => kept s (.onTimer [turn]) held)
      (fun s turn held before met => exact_ s turn held before met) invariant_ all met
  refine Transition.property_iff_along (fun s : AutoUpdater => property s.actions) invariant
    (fun s call held _ _ _ => kept s call held) ?_ initial start assumptions
  intro s call held all met
  -- Only a pass over the queue has rounds.
  cases call with
  | onTimer turns => exact pass s turns held all met
  | toBeUpgraded serialNumber deviceType =>
    refine iff_of_true ?_ trivial
    simp only [step, toBeUpgraded]
    split <;> exact all
  | reset => exact iff_of_true (resets s.actions all) trivial

/-- What every round meets holds along every run of calls. -/
theorem allRounds_true (poco : Poco) (s : AutoUpdater) (calls : List UpdaterCall) :
    Transition.Along (step poco) (AllRounds poco fun _ _ => True) s calls := by
  -- Only a pass has rounds to meet anything.
  refine Transition.along_mono ?_ (Transition.along_true (step poco) s calls)
  intro s call _
  cases call with
  | onTimer turns => exact Transition.along_true (round poco) s turns
  | toBeUpgraded => trivial
  | reset => trivial

/--
Along a run every command is allowed exactly when every round meets a condition.

The condition has to be exact for one round, given an invariant that all calls keep.
-/
theorem eachSent_iff_allRounds (invariant : AutoUpdater → Prop)
    {condition : AutoUpdater → Turn → Prop}
    (kept : ∀ s call, invariant s → invariant (step poco s call))
    (exact_ : ∀ s turn, invariant s → EachSent allowed s.actions →
      (EachSent allowed (round poco s turn).actions ↔ condition s turn))
    (initial : invariant s) (start : EachSent allowed s.actions) (calls : List UpdaterCall) :
    (∀ reached ∈ Transition.states (step poco) s calls, EachSent allowed reached.actions) ↔
      Transition.Along (step poco) (AllRounds poco condition) s calls :=
  property_iff_allRounds (EachSent allowed) (fun _ _ all => eachSent_of_append all)
    (fun _ all => eachSent_quiet (by simp) all) invariant kept
    (fun s turn held all _ => exact_ s turn held all) initial start (allRounds_true poco s calls)

/--
Between two states of the updater a device has not been queued.

Unless it was in the queue before, it has not been sent anything and no option for it was cached.
-/
structure Ignores (serialNumber : String) (before after : AutoUpdater) : Prop where
  queue : ∀ entry ∈ after.queue, entry.1 = serialNumber → entry ∈ before.queue
  silent : (∀ entry ∈ before.queue, entry.1 ≠ serialNumber) →
    (∀ c : SerialCache, after.cache[serialNumber]? = some c → before.cache[serialNumber]? = some c) ∧
      ∃ added, after.actions = added ++ before.actions ∧ SendsNothingTo serialNumber added

/-- Nothing has happened to a device when nothing has happened. -/
theorem Ignores.refl (serialNumber : String) (s : AutoUpdater) : Ignores serialNumber s s where
  queue := fun _ member _ => member
  silent := fun _ => ⟨fun _ found => found, [], rfl, fun _ => List.not_mem_nil⟩

/-- A device that is ignored twice is ignored throughout. -/
theorem Ignores.trans {serialNumber : String} {before middle after : AutoUpdater}
    (first : Ignores serialNumber before middle) (second : Ignores serialNumber middle after) :
    Ignores serialNumber before after := by
  refine ⟨fun entry member own => first.queue entry (second.queue entry member own) own, ?_⟩
  intro absent
  -- The device is not in the queue in the middle either.
  have stillAbsent : ∀ entry ∈ middle.queue, entry.1 ≠ serialNumber :=
    fun entry member own => absent entry (first.queue entry member own) own
  obtain ⟨cacheFirst, early, grownFirst, quietFirst⟩ := first.silent absent
  obtain ⟨cacheSecond, late, grownSecond, quietSecond⟩ := second.silent stillAbsent
  refine ⟨fun c found => cacheFirst c (cacheSecond c found), late ++ early, ?_, ?_⟩
  · rw [grownSecond, grownFirst, List.append_assoc]
  · intro fwDetails member
    rcases List.mem_append.mp member with sent | sent
    · exact quietSecond fwDetails sent
    · exact quietFirst fwDetails sent

/-- The end of a round changes neither the queue nor the cache. -/
theorem queue_cache_sendUnlessRefused (turn : Turn) (entry : String × String)
    (firmwareUpgrade : String) (s : AutoUpdater) :
    (sendUnlessRefused turn entry firmwareUpgrade s).queue = s.queue ∧
      (sendUnlessRefused turn entry firmwareUpgrade s).cache = s.cache := by
  -- All it can change is the list of actions.
  unfold sendUnlessRefused
  split
  · exact ⟨rfl, rfl⟩
  · cases latestFirmware turn.catalogue entry.2 <;> exact ⟨rfl, rfl⟩

/-- An upgrade leaves the queue and the options of other devices alone. -/
theorem queue_cache_upgrade (poco : Poco) (turn : Turn) (entry : String × String)
    (s : AutoUpdater) :
    (upgrade poco turn entry s).queue = s.queue ∧
      ∀ other, entry.1 ≠ other → (upgrade poco turn entry s).cache[other]? = s.cache[other]? := by
  -- Only an answer is cached, and only for the device that was asked about.
  cases asks : mustAsk turn.now s.cache[entry.1]? with
  | false =>
    rw [upgrade_of_cached asks]
    obtain ⟨queue, cache⟩ := queue_cache_sendUnlessRefused turn entry "" s
    exact ⟨queue, fun other _ => by rw [cache]⟩
  | true =>
    cases outcome : SDK.Prov.getFirmwareOptions poco turn.services with
    | none =>
      rw [upgrade_of_exception asks outcome]
      exact ⟨rfl, fun _ _ => rfl⟩
    | some answer =>
      obtain ⟨result, firmwareUpgrade, firmwareRCOnly⟩ := answer
      rw [upgrade_of_answer asks outcome]
      refine ⟨(queue_cache_sendUnlessRefused turn entry firmwareUpgrade _).1, fun other apart => ?_⟩
      rw [(queue_cache_sendUnlessRefused turn entry firmwareUpgrade _).2]
      simp [Std.ExtTreeMap.getElem?_insert, apart]

/-- A round ignores every device it does not take from the queue. -/
theorem ignores_round (serialNumber : String) (turn : Turn) (s : AutoUpdater) :
    Ignores serialNumber s (round poco s turn) := by
  unfold round
  cases waiting : s.queue with
  | nil => exact Ignores.refl serialNumber s
  | cons entry queue =>
    obtain ⟨left, others⟩ := queue_cache_upgrade poco turn entry { s with queue }
    obtain ⟨added, grown, quiet⟩ := actions_upgrade poco turn entry { s with queue }
    -- The queue loses its first entry, which belongs to another device if this one is absent.
    constructor
    · intro other member _
      rw [left] at member
      rw [waiting]
      exact List.mem_cons_of_mem _ member
    · intro absent
      have apart : entry.1 ≠ serialNumber := absent entry (by simp [waiting])
      refine ⟨fun c found => ?_, added, grown, quiet serialNumber apart⟩
      rw [others serialNumber apart] at found
      exact found

/-- A pass ignores every device that is not in the queue. -/
theorem ignores_onTimer (serialNumber : String) (turns : List Turn) (s : AutoUpdater) :
    Ignores serialNumber s (onTimer poco turns s) := by
  -- The rounds follow each other.
  show Ignores serialNumber s (turns.foldl (round poco) s)
  induction turns generalizing s with
  | nil => exact Ignores.refl serialNumber s
  | cons turn rest ih => exact (ignores_round serialNumber turn s).trans (ih (round poco s turn))

/-- A reset forgets all devices. -/
theorem ignores_reset (serialNumber : String) (s : AutoUpdater) :
    Ignores serialNumber s s.reset where
  queue := fun _ member _ => absurd member List.not_mem_nil
  silent := fun _ => ⟨fun _ found => by simp [reset] at found, [.reset], rfl, fun _ => by simp⟩

/-- Queueing a device ignores the others. -/
theorem ignores_toBeUpgraded {serialNumber other : String} (apart : other ≠ serialNumber)
    (deviceType : String) (s : AutoUpdater) :
    Ignores serialNumber s (s.toBeUpgraded other deviceType) := by
  -- Queueing appends one entry, of the other device.
  unfold toBeUpgraded
  split
  · exact Ignores.refl serialNumber s
  · refine ⟨fun entry member own => ?_, fun _ => ⟨fun _ found => found, [], rfl, by
      intro fwDetails
      exact List.not_mem_nil⟩⟩
    rcases List.mem_append.mp member with old | new
    · exact old
    · rw [List.mem_singleton.mp new] at own
      exact absurd own apart

end AutoUpdater

end Fms
