import Fms.Relation.Window
import Fms.Upgrade.Refusal

/-! How often the updater asks the provisioning service about a device. -/

namespace Fms.AutoUpdater

/-- The times at which the updater has asked about a device, the latest first. -/
@[grind =]
def askedTimes (serialNumber : String) : List UpdaterAction → List Nat
  | [] => []
  | .asked asked now _ :: before =>
    if asked = serialNumber then now.toNat :: askedTimes serialNumber before
    else askedTimes serialNumber before
  | .sent .. :: before | .reset :: before => askedTimes serialNumber before

/-- In no interval of three hundred seconds has the updater asked twice about a device. -/
def Throttled (actions : List UpdaterAction) : Prop :=
  ∀ serialNumber, Window.Sparse 300 (askedTimes serialNumber actions)

/-- The readings of the clock in a call. -/
def readings : UpdaterCall → List UInt64
  | .onTimer turns => turns.map Turn.now
  | .toBeUpgraded .. | .reset => []

/--
The option cached for a device was obtained in the second that a round reads.

An option from almost 2^64 seconds before counts as well, because the clock has come around to it.
-/
def ObtainedNow (now : UInt64) : Option SerialCache → Prop
  | some cacheEntry => cacheEntry.lastCheck = now ∨
    18446744073709551316 ≤ now.toNat - cacheEntry.lastCheck.toNat
  | none => False

/--
A round comes to a device five minutes after all questions about it, or in the second in which its
option was obtained.
-/
def Spaced (s : AutoUpdater) (turn : Turn) : Prop :=
  match s.queue with
  | [] => True
  | entry :: _ => ObtainedNow turn.now s.cache[entry.1]? ∨
    ∀ time ∈ askedTimes entry.1 s.actions, time + 300 ≤ turn.now.toNat

/-- No question has been asked later than a time. -/
def AskedBy (s : AutoUpdater) (now : UInt64) : Prop :=
  ∀ serialNumber, ∀ time ∈ askedTimes serialNumber s.actions, time ≤ now.toNat

/-- Each cached option was obtained by a question, at the time the option has. -/
def CacheAsked (s : AutoUpdater) : Prop :=
  ∀ (serialNumber : String) (c : SerialCache), s.cache[serialNumber]? = some c →
    c.lastCheck.toNat ∈ askedTimes serialNumber s.actions

variable {poco : Poco} {turn : Turn} {entry : String × String} {s : AutoUpdater}

/-- Earlier actions come behind the later ones, and so do their times. -/
theorem askedTimes_append (serialNumber : String) (added before : List UpdaterAction) :
    askedTimes serialNumber (added ++ before) =
      askedTimes serialNumber added ++ askedTimes serialNumber before := by
  -- The induction peels off the later actions; only a question about the device adds a time.
  induction added with
  | nil => rfl
  | cons action rest ih =>
    cases action with
    | asked asked now outcome =>
      simp only [List.cons_append, askedTimes, ih]
      split <;> rfl
    | sent other fwDetails => exact ih
    | reset => exact ih

/-- The end of a round asks nothing. -/
theorem askedTimes_sendUnlessRefused (serialNumber firmwareUpgrade : String) :
    askedTimes serialNumber (sendUnlessRefused turn entry firmwareUpgrade s).actions =
      askedTimes serialNumber s.actions := by
  unfold sendUnlessRefused
  -- A command in front of the actions is no question.
  split
  · rfl
  · cases latestFirmware turn.catalogue entry.2 <;> rfl

/-- An upgrade asks about its own device, at the time it reads, when it has to. -/
theorem askedTimes_upgrade (serialNumber : String) :
    askedTimes serialNumber (upgrade poco turn entry s).actions =
      if mustAsk turn.now s.cache[entry.1]? = true ∧ entry.1 = serialNumber then
        turn.now.toNat :: askedTimes serialNumber s.actions
      else askedTimes serialNumber s.actions := by
  cases asks : mustAsk turn.now s.cache[entry.1]? with
  | false =>
    rw [upgrade_of_cached asks, askedTimes_sendUnlessRefused]
    simp
  | true =>
    -- The question is recorded whether it is answered or not.
    cases outcome : SDK.Prov.getFirmwareOptions poco turn.services with
    | none =>
      rw [upgrade_of_exception asks outcome]
      simp [askedTimes]
    | some answer =>
      obtain ⟨result, firmwareUpgrade, firmwareRCOnly⟩ := answer
      rw [upgrade_of_answer asks outcome, askedTimes_sendUnlessRefused]
      simp [askedTimes]

/-- A round asks unless the option was obtained in the same second: the difference is reversed. -/
theorem mustAsk_iff {now : UInt64} {cacheEntry : Option SerialCache}
    (checked : ∀ c, cacheEntry = some c → c.lastCheck ≤ now) :
    mustAsk now cacheEntry = true ↔ ¬ ObtainedNow now cacheEntry := by
  cases cacheEntry with
  | none => simp [mustAsk, ObtainedNow]
  | some c =>
    -- The earlier reading less the later one wraps around, unless it is zero.
    have order := UInt64.le_iff_toNat_le.mp (checked c rfl)
    have bound := now.toNat_lt
    have limit : (300 : UInt64).toNat = 300 := rfl
    rw [mustAsk, ObtainedNow, decide_eq_true_iff, gt_iff_lt, UInt64.lt_iff_toNat_lt,
      UInt64.toNat_sub, ← UInt64.toNat_inj]
    omega

/-- A round keeps the questions throttled exactly when it is spaced from them. -/
theorem throttled_round (cacheAsked : CacheAsked s) (throttled : Throttled s.actions)
    (asked : AskedBy s turn.now) : Throttled (round poco s turn).actions ↔ Spaced s turn := by
  unfold round Spaced
  cases s.queue with
  | nil => simpa using throttled
  | cons entry queue =>
    have checked (c : SerialCache) (cached : s.cache[entry.1]? = some c) : c.lastCheck ≤ turn.now :=
      UInt64.le_iff_toNat_le.mpr (asked entry.1 _ (cacheAsked entry.1 c cached))
    -- Only the times of this device can grow, by the latest of all times.
    have times (serialNumber : String) :
        askedTimes serialNumber (upgrade poco turn entry { s with queue }).actions =
          if mustAsk turn.now s.cache[entry.1]? = true ∧ entry.1 = serialNumber then
            turn.now.toNat :: askedTimes serialNumber s.actions
          else askedTimes serialNumber s.actions := askedTimes_upgrade serialNumber
    have asking := mustAsk_iff checked
    simp only [Throttled, times, or_iff_not_imp_left]
    constructor
    · intro all anew
      have own := all entry.1
      rw [if_pos ⟨asking.mpr anew, rfl⟩, Window.sparse_cons_iff (asked entry.1)] at own
      exact own.1
    · intro spaced serialNumber
      split
      · rename_i asks
        obtain ⟨asks, rfl⟩ := asks
        rw [Window.sparse_cons_iff (asked entry.1)]
        exact ⟨spaced (asking.mp asks), throttled entry.1⟩
      · exact throttled serialNumber

/-- An upgrade caches an option only at the time of its question. -/
theorem cacheAsked_upgrade (cacheAsked : CacheAsked s) : CacheAsked (upgrade poco turn entry s) := by
  intro serialNumber c cached
  rw [askedTimes_upgrade]
  by_cases own : entry.1 = serialNumber
  · subst own
    cases asks : mustAsk turn.now s.cache[entry.1]? with
    | false =>
      rw [upgrade_of_cached asks, (queue_cache_sendUnlessRefused turn entry "" s).2] at cached
      simpa using cacheAsked entry.1 c cached
    | true =>
      -- Without an answer the option is an older one, and with one it is of this time.
      rw [if_pos ⟨rfl, rfl⟩]
      cases outcome : SDK.Prov.getFirmwareOptions poco turn.services with
      | none =>
        rw [upgrade_of_exception asks outcome] at cached
        exact List.mem_cons_of_mem _ (cacheAsked entry.1 c cached)
      | some answer =>
        obtain ⟨result, firmwareUpgrade, firmwareRCOnly⟩ := answer
        rw [upgrade_of_answer asks outcome, (queue_cache_sendUnlessRefused turn entry _ _).2,
          Std.ExtTreeMap.getElem?_insert_self] at cached
        rw [← Option.some.inj cached]
        exact List.mem_cons_self
  · rw [(queue_cache_upgrade poco turn entry s).2 serialNumber own] at cached
    simpa [own] using cacheAsked serialNumber c cached

/-- Every call keeps the cached options dated by their questions. -/
theorem cacheAsked_step (cacheAsked : CacheAsked s) (call : UpdaterCall) :
    CacheAsked (step poco s call) := by
  refine invariant_step CacheAsked (fun _ _ cacheAsked => cacheAsked)
    (fun _ _ _ cacheAsked => cacheAsked_upgrade cacheAsked) ?_ cacheAsked call
  -- A reset leaves no option in the cache.
  intro s _ serialNumber c cached
  simp [reset] at cached

/-- A round asks at no other time than the one it reads. -/
theorem askedBy_round {later : UInt64} (asked : AskedBy s later) (order : turn.now ≤ later) :
    AskedBy (round poco s turn) later := by
  -- The only time a round can add is the one it reads.
  intro serialNumber time member
  unfold round at member
  cases waiting : s.queue with
  | nil =>
    rw [waiting] at member
    exact asked serialNumber time member
  | cons entry queue =>
    rw [waiting] at member
    simp only [askedTimes_upgrade] at member
    split at member
    · rcases List.mem_cons.mp member with rfl | old
      · exact UInt64.le_iff_toNat_le.mp order
      · exact asked serialNumber time old
    · exact asked serialNumber time member

/-- While the clock does not go back, every round of a pass reads a time after all questions. -/
theorem askedBy_rounds {turns : List Turn} {later : List UInt64}
    (clock : (turns.map Turn.now ++ later).Pairwise (· ≤ ·))
    (past : ∀ now ∈ turns.map Turn.now ++ later, AskedBy s now) :
    Transition.Along (round poco) (fun s turn => AskedBy s turn.now) s turns ∧
      ∀ now ∈ later, AskedBy (onTimer poco turns s) now := by
  -- The times of the questions grow round by round, and the readings stay ahead of them.
  unfold onTimer
  induction turns generalizing s with
  | nil => exact ⟨trivial, past⟩
  | cons turn rest ih =>
    rw [List.map_cons, List.cons_append] at clock past
    obtain ⟨first, clock⟩ := List.pairwise_cons.mp clock
    obtain ⟨along, after⟩ := ih (s := round poco s turn) clock fun now member =>
      askedBy_round (past now (List.mem_cons_of_mem _ member)) (first now member)
    exact ⟨⟨past turn.now List.mem_cons_self, along⟩, after⟩

/-- While the clock does not go back, every round of a run reads a time after all questions. -/
theorem askedBy_along {calls : List UpdaterCall}
    (clock : (calls.flatMap readings).Pairwise (· ≤ ·))
    (past : ∀ now ∈ calls.flatMap readings, AskedBy s now) :
    Transition.Along (step poco) (AllRounds poco fun s turn => AskedBy s turn.now) s calls := by
  induction calls generalizing s with
  | nil => trivial
  | cons call rest ih =>
    rw [List.flatMap_cons] at clock past
    have later := (List.pairwise_append.mp clock).2.1
    -- A call that is no pass reads no clock and asks nothing.
    cases call with
    | onTimer turns =>
      have pass : Transition.Along (round poco) (fun s turn => AskedBy s turn.now) s turns ∧ _ :=
        askedBy_rounds clock past
      exact ⟨pass.1, ih later pass.2⟩
    | toBeUpgraded serialNumber deviceType =>
      refine ⟨trivial, ih later fun now member => ?_⟩
      have before := past now (List.mem_append_right _ member)
      simp only [step, toBeUpgraded]
      split <;> exact before
    | reset =>
      refine ⟨trivial, ih later fun now member => ?_⟩
      exact past now (List.mem_append_right _ member)

/--
Lookups are throttled if and only if every round is spaced from the questions before it.

A device that comes up again a second after its answer is asked about again, because the difference
the round compares is that of the earlier reading and the later one.
-/
theorem throttled_iff_spaced (poco : Poco) (autoUpdaterEnabled : Bool) (calls : List UpdaterCall)
    (clock : (calls.flatMap readings).Pairwise (· ≤ ·)) :
    (∀ reached ∈ Transition.states (step poco) { autoUpdaterEnabled } calls,
        Throttled reached.actions) ↔
      Transition.Along (step poco) (AllRounds poco Spaced) { autoUpdaterEnabled } calls := by
  -- Nothing has been asked at the start, and nothing is cached.
  have past : ∀ now ∈ calls.flatMap readings, AskedBy { autoUpdaterEnabled } now :=
    fun _ _ _ _ member => absurd member List.not_mem_nil
  have start : Throttled ({ autoUpdaterEnabled } : AutoUpdater).actions :=
    fun _ => Window.sparse_nil 300
  have uncached : CacheAsked { autoUpdaterEnabled } := fun serialNumber c cached => by
    simp at cached
  refine property_iff_allRounds Throttled ?_ (fun _ throttled => throttled) CacheAsked
    (fun _ call cacheAsked => cacheAsked_step cacheAsked call)
    (fun _ _ cacheAsked throttled asked => throttled_round cacheAsked throttled asked) uncached
    start (askedBy_along clock past)
  -- Fewer actions hold fewer questions.
  intro added before throttled serialNumber
  have all := throttled serialNumber
  rw [askedTimes_append] at all
  exact all.of_append

instance (now : UInt64) : ∀ cacheEntry : Option SerialCache, Decidable (ObtainedNow now cacheEntry)
  | some cacheEntry => inferInstanceAs (Decidable (cacheEntry.lastCheck = now ∨
    18446744073709551316 ≤ now.toNat - cacheEntry.lastCheck.toNat))
  | none => inferInstanceAs (Decidable False)

instance (s : AutoUpdater) (turn : Turn) : Decidable (Spaced s turn) := by
  unfold Spaced
  split <;> infer_instance

/-- Two passes over one device, some seconds apart. -/
def passesApart (seconds : UInt64) : List UpdaterCall :=
  [.toBeUpgraded "903cb3000001" "eap101", .onTimer [roundWithFirmware],
    .toBeUpgraded "903cb3000001" "eap101",
    .onTimer [{ roundWithFirmware with now := roundWithFirmware.now + seconds }]]

/-- Two passes ten minutes apart ask once in any five minutes. -/
theorem throttled_passesApart :
    Throttled ((passesApart 600).foldl (step refusalPoco) { autoUpdaterEnabled := true }).actions := by
  -- The first pass has nothing cached, and the second one comes six hundred seconds later.
  have spaced : Transition.Along (step refusalPoco) (AllRounds refusalPoco Spaced)
      { autoUpdaterEnabled := true } (passesApart 600) := by
    refine ⟨trivial, ⟨?_, trivial⟩, trivial, ⟨?_, trivial⟩, trivial⟩
    · decide +kernel
    · decide +kernel
  exact (throttled_iff_spaced refusalPoco true (passesApart 600) (by decide +kernel)).mpr spaced _
    (Transition.last_mem_states _ (passesApart 600))

/-- A second after an answer the updater asks again. -/
theorem asks_after_a_second :
    ¬ ∀ (poco : Poco) (autoUpdaterEnabled : Bool) (calls : List UpdaterCall),
      (∀ call ∈ calls, call ≠ .reset) → (calls.flatMap readings).Pairwise (· ≤ ·) →
      ∀ reached ∈ Transition.states (step poco) { autoUpdaterEnabled } calls,
        Throttled reached.actions := by
  -- Both passes ask, so the window of the first one has two questions in it.
  intro throttled
  have noReset : ∀ call ∈ passesApart 1, call ≠ .reset := by simp [passesApart]
  have times := throttled refusalPoco true (passesApart 1) noReset (by decide +kernel) _
    (Transition.last_mem_states _ (passesApart 1)) "903cb3000001" 1700000000
  exact absurd times (by decide +kernel)

end Fms.AutoUpdater
