import Fms.Manifest.Refresh
import Fms.Relation.Run

/-! `ManifestCreator::RunUpdateTask` and its worker thread: when a refresh can be asked for again. -/

namespace Fms

/-- Where the thread of a refresh stands. -/
inductive WorkerPhase where
  /-- The thread exists, and `run` is not entered yet. -/
  | starting
  /-- In `run`, before its last two statements. -/
  | running
  /-- In `run`, with its last two statements to go. -/
  | finishing
  /-- `run` is left, and the thread is not over yet. -/
  | leaving
  deriving DecidableEq, Repr

/-- The thread executes `run`. -/
def WorkerPhase.inRun : WorkerPhase → Bool
  | running | finishing => true
  | starting | leaving => false

/-- The thread executes `run` or is about to. -/
def WorkerPhase.active : WorkerPhase → Bool
  | starting | running | finishing => true
  | leaving => false

/-- The state `RunUpdateTask` and the worker thread share. -/
structure UpdateTask where
  catalogue : Catalogue := {}
  lastUpdate : UInt64 := 0
  /-- `UpdateRunning_`. -/
  updateRunning : Bool := false
  /-- The callers that have set the flag and are about to start the thread. -/
  requesters : Nat := 0
  /-- Whether `RunnerThread_` has a target, from its start to its end. -/
  runnableTarget : Bool := false
  workers : List WorkerPhase := []

/-- The steps of the callers and of the worker threads. -/
inductive UpdateEvent where
  /-- `RunUpdateTask` up to the test of the flag, by the timer or by a request. -/
  | testAndSet
  /-- The rest of `RunUpdateTask` for a caller that has set the flag. -/
  | start
  | enter (worker : Nat)
  | body (worker : Nat) (ctx : RefreshContext)
  | clear (worker : Nat) (now : UInt64)
  | exit (worker : Nat)

/-- The state after a step; a step that is not possible changes nothing. -/
@[grind =]
def updateStep (config : ManifestConfig) (s : UpdateTask) : UpdateEvent → UpdateTask
  | .testAndSet =>
    if s.updateRunning then s
    else { s with updateRunning := true, requesters := s.requesters + 1 }
  | .start =>
    if s.requesters = 0 then s
    -- A thread that still has a target refuses to start, and the exception leaves `RunUpdateTask`.
    else if s.runnableTarget then { s with requesters := s.requesters - 1 }
    else { s with
      requesters := s.requesters - 1
      runnableTarget := true
      workers := s.workers ++ [.starting] }
  | .enter worker =>
    match s.workers[worker]? with
    | some .starting => { s with workers := s.workers.set worker .running }
    | _ => s
  | .body worker ctx =>
    match s.workers[worker]? with
    | some .running =>
      let outcome := refresh config ctx s.catalogue
      { s with
        catalogue := outcome.catalogue
        workers := s.workers.set worker (if outcome.completed then .finishing else .leaving) }
    | _ => s
  | .clear worker now =>
    match s.workers[worker]? with
    | some .finishing =>
      { s with
        lastUpdate := now
        updateRunning := false
        workers := s.workers.set worker .leaving }
    | _ => s
  | .exit worker =>
    match s.workers[worker]? with
    | some .leaving =>
      { s with
        runnableTarget := false
        workers := s.workers.eraseIdx worker }
    | _ => s

/-- The number of refreshes that are executing or about to. -/
def UpdateTask.active (s : UpdateTask) : Nat :=
  s.requesters + s.workers.countP WorkerPhase.active

/-- Once no refresh is executing or about to, the flag is clear. -/
def Rearmed (s : UpdateTask) : Prop :=
  s.active = 0 → s.updateRunning = false

/-- A downloaded `.json` object holds a JSON object, and its manifest fields convert if it has all four. -/
def Readable (poco : Poco) (o : ListedObject) : Prop :=
  getExtension o.key = "json" → ∀ content, o.content = some content →
    ∃ parsedContent, poco.parseObject content = some parsedContent ∧
      (hasFields parsedContent = true → (readFields poco parsedContent).isSome = true)

/-- What a step must not meet: a thread that is still ending, an unreadable object, a failed select. -/
def Undisturbed (config : ManifestConfig) (s : UpdateTask) : UpdateEvent → Prop
  | .start => s.requesters = 0 ∨ s.runnableTarget = false
  | .body worker ctx => s.workers[worker]? = some .running →
    (∀ o ∈ ctx.listing.reached, Readable config.poco o) ∧ ctx.manifest.selected = true
  | .testAndSet | .enter _ | .clear .. | .exit _ => True

/-- Reading an object throws exactly when it is an unreadable `.json` object. -/
theorem readObject_isSome (poco : Poco) (bucketUri : String) (bucket : S3BucketContent)
    (o : ListedObject) :
    (readObject poco bucketUri bucket o).isSome = true ↔ Readable poco o := by
  unfold readObject Readable
  -- Only `.json` objects can throw.
  by_cases json : getExtension o.key = "json"
  · simp only [json, if_true, true_imp_iff]
    cases content : o.content with
    | none => simp
    | some text =>
      simp only [Option.some.injEq, forall_eq']
      cases parsed : poco.parseObject text with
      | none => simp [readManifest, parsed]
      | some parsedContent =>
        simp only [readManifest, parsed, Option.bind_eq_bind, Option.bind_some, Option.some.injEq,
          exists_eq_left']
        by_cases has : hasFields parsedContent = true
        · -- The map grows or is rewritten, whatever it held before.
          cases converted : readFields poco parsedContent with
          | none => simp [has]
          | some fields => cases bucket[getBaseName o.key]? <;> simp [has]
        · simp [has]
  · simp only [json, if_false, false_imp_iff, iff_true]
    split <;> rfl

/-- Reading objects throws exactly when one of them is an unreadable `.json` object. -/
theorem foldlM_readObject_isSome (poco : Poco) (bucketUri : String) (objects : List ListedObject)
    (bucket : S3BucketContent) :
    (objects.foldlM (readObject poco bucketUri) bucket).isSome = true ↔
      ∀ o ∈ objects, Readable poco o := by
  -- The map that has been read so far does not matter.
  induction objects generalizing bucket with
  | nil => simp
  | cons o rest ih =>
    have first := readObject_isSome poco bucketUri bucket o
    rw [List.foldlM_cons, List.forall_mem_cons, ← first]
    cases readObject poco bucketUri bucket o with
    | none => simp
    | some read => simpa using ih read

/-- A refresh reaches its last statements exactly when nothing it reads or selects throws. -/
theorem refresh_completed (config : ManifestConfig) (ctx : RefreshContext) (c : Catalogue) :
    (refresh config ctx c).completed = true ↔
      (∀ o ∈ ctx.listing.reached, Readable config.poco o) ∧ ctx.manifest.selected = true := by
  have objects := foldlM_readObject_isSome config.poco config.bucketUri
    ctx.listing.reached ∅
  rw [← objects]
  -- The two exceptions: an object that cannot be read, and a select statement that fails.
  cases read : ctx.listing.reached.foldlM (readObject config.poco config.bucketUri) ∅ with
  | none =>
    have threw : readBucket config.poco config.bucketUri ctx.listing = none := by
      rw [readBucket, readPages_eq, read, Option.map_none]
    simp [refresh, reconcile, threw]
  | some bucket =>
    have left := readBucket_eq_some.mpr ⟨read, rfl⟩
    cases selected : ctx.manifest.selected with
    | false =>
      simp [refresh, reconcile, left, addManifestToDB, selected,
        FirmwaresDB.removeOldDBEntriesNotInManifest]
    | true =>
      simp [refresh, reconcile, left, addManifestToDB, selected,
        FirmwaresDB.removeOldDBEntriesNotInManifest]

/-- What holds in every state: one thread at most, and a set flag while a refresh is active. -/
structure SingleWorker (s : UpdateTask) : Prop where
  one : s.workers.length ≤ 1
  target : s.runnableTarget = true ↔ s.workers ≠ []
  exclusive : s.active ≤ 1
  marked : s.active = 1 → s.updateRunning = true

/-- The thread a worker event addresses is the only one. -/
theorem workers_eq_singleton {workers : List WorkerPhase} (one : workers.length ≤ 1) {worker : Nat}
    {phase : WorkerPhase} (addressed : workers[worker]? = some phase) :
    worker = 0 ∧ workers = [phase] := by
  -- A list of one element has one position.
  obtain ⟨inRange, stands⟩ := List.getElem?_eq_some_iff.mp addressed
  have first : worker = 0 := by omega
  subst first
  have single : workers.length = 1 := by omega
  obtain ⟨only, rfl⟩ := List.length_eq_one_iff.mp single
  exact ⟨rfl, by simpa using stands⟩

/-- One thread moves on to another phase, and possibly writes the catalogue and the clock. -/
theorem singleWorker_move {s s' : UpdateTask} (single : SingleWorker s) {phase next : WorkerPhase}
    (before : s.workers = [phase]) (after : s'.workers = [next])
    (requesters : s'.requesters = s.requesters) (target : s'.runnableTarget = s.runnableTarget)
    (fewer : next.active = true → phase.active = true)
    (flag : next.active = true → s'.updateRunning = s.updateRunning)
    (idle : next.active = false → phase.active = true ∨ s'.updateRunning = s.updateRunning) :
    SingleWorker s' := by
  -- The thread was the only one before, and it is the only one after.
  have exclusive := single.exclusive
  have marked := single.marked
  simp only [UpdateTask.active, before, List.countP_singleton] at exclusive marked
  refine ⟨by rw [after]; exact Nat.le_refl 1, ?_, ?_, ?_⟩
  · have kept := single.target
    rw [before] at kept
    rw [target, after]
    simpa using kept
  · simp only [UpdateTask.active, after, requesters, List.countP_singleton]
    cases works : next.active with
    | true =>
      rw [fewer works] at exclusive
      simpa [works] using exclusive
    | false =>
      have low : s.requesters ≤ 1 := by omega
      simpa [works] using low
  · simp only [UpdateTask.active, after, requesters, List.countP_singleton]
    cases works : next.active with
    | true =>
      intro one
      rw [flag works]
      rw [fewer works] at marked
      exact marked (by simpa [works] using one)
    | false =>
      intro one
      have requested : s.requesters = 1 := by simpa [works] using one
      rcases idle works with moved | same
      · -- The thread was active, so nobody else can be about to start one.
        rw [moved] at exclusive
        simp only [if_true] at exclusive
        omega
      · rw [same]
        refine marked ?_
        have below : s.requesters + (if phase.active = true then 1 else 0) ≤ 1 := exclusive
        omega

/-- Test and set admits one caller. -/
theorem singleWorker_testAndSet (config : ManifestConfig) {s : UpdateTask} (single : SingleWorker s) :
    SingleWorker (updateStep config s .testAndSet) := by
  simp only [updateStep]
  split
  · exact single
  · -- The flag was clear, so no refresh was active.
    rename_i clear
    have exclusive := single.exclusive
    have idle : s.active = 0 := by
      have notOne : s.active ≠ 1 := fun one => clear (single.marked one)
      omega
    refine ⟨single.one, single.target, ?_, fun _ => rfl⟩
    simp only [UpdateTask.active] at idle ⊢
    omega

/-- The caller that has been admitted starts the thread, or gives up while it still has a target. -/
theorem singleWorker_start (config : ManifestConfig) {s : UpdateTask} (single : SingleWorker s) :
    SingleWorker (updateStep config s .start) := by
  have exclusive := single.exclusive
  have marked := single.marked
  simp only [updateStep]
  split
  · exact single
  · simp only [UpdateTask.active] at exclusive marked
    split
    · refine ⟨single.one, single.target, ?_, ?_⟩
      · simp only [UpdateTask.active]
        omega
      · intro one
        refine marked ?_
        simp only [UpdateTask.active] at one
        omega
    · rename_i ended
      -- Without a target there is no thread left.
      have none_ : s.workers = [] := by
        refine Decidable.byContradiction fun some_ => ended ?_
        exact single.target.mpr some_
      simp only [none_, List.countP_nil] at exclusive marked
      have requester : s.requesters = 1 := by omega
      refine ⟨by simp [none_], by simp [none_], ?_, fun _ => marked (by omega)⟩
      simp [UpdateTask.active, none_, requester, WorkerPhase.active]

/-- The thread ends, and its target with it. -/
theorem singleWorker_exit (config : ManifestConfig) {s : UpdateTask} (single : SingleWorker s) (worker : Nat) :
    SingleWorker (updateStep config s (.exit worker)) := by
  have exclusive := single.exclusive
  have marked := single.marked
  simp only [updateStep]
  split
  · -- It was the only one, and had become inactive before.
    rename_i addressed
    obtain ⟨rfl, only⟩ := workers_eq_singleton single.one addressed
    simp only [UpdateTask.active, only, List.countP_singleton, WorkerPhase.active] at exclusive marked
    refine ⟨by simp [only], by simp [only], ?_, ?_⟩
    · simpa [UpdateTask.active, only] using exclusive
    · simpa [UpdateTask.active, only] using marked
  · exact single

/-- Every step keeps the threads exclusive. -/
theorem singleWorker_updateStep (config : ManifestConfig) {s : UpdateTask} (single : SingleWorker s)
    (event : UpdateEvent) : SingleWorker (updateStep config s event) := by
  -- Test and set admits one caller; the others move the only thread along.
  cases event with
  | testAndSet => exact singleWorker_testAndSet config single
  | start => exact singleWorker_start config single
  | enter worker =>
    simp only [updateStep]
    split
    · rename_i addressed
      obtain ⟨rfl, only⟩ := workers_eq_singleton single.one addressed
      have moved : s.workers.set 0 .running = [.running] := by simp [only]
      exact singleWorker_move single only moved rfl rfl (fun _ => rfl) (fun _ => rfl)
        fun _ => Or.inl rfl
    · exact single
  | body worker ctx =>
    simp only [updateStep]
    split
    · rename_i addressed
      obtain ⟨rfl, only⟩ := workers_eq_singleton single.one addressed
      exact singleWorker_move single only (by simp [only]; rfl) rfl rfl (fun _ => rfl) (fun _ => rfl)
        fun _ => Or.inl rfl
    · exact single
  | clear worker now =>
    simp only [updateStep]
    split
    · rename_i addressed
      obtain ⟨rfl, only⟩ := workers_eq_singleton single.one addressed
      exact singleWorker_move single only (by simp [only]; rfl) rfl rfl
        (fun works => by simp [WorkerPhase.active] at works)
        (fun works => by simp [WorkerPhase.active] at works) fun _ => Or.inl rfl
    · exact single
  | exit worker => exact singleWorker_exit config single worker

/-- A caller that starts no thread leaves the flag set, unless there was nobody to start one. -/
theorem rearmed_start (config : ManifestConfig) {s : UpdateTask} (single : SingleWorker s) (rearmed : Rearmed s) :
    Rearmed (updateStep config s .start) ↔ Undisturbed config s .start := by
  have exclusive := single.exclusive
  have marked := single.marked
  simp only [updateStep, Undisturbed]
  split
  · rename_i nobody
    exact iff_of_true rearmed (Or.inl nobody)
  · rename_i requested
    simp only [UpdateTask.active] at exclusive marked
    split
    · rename_i refused
      -- The caller gives up, and the flag it has set stays set.
      refine iff_of_false (fun after => ?_) (fun fine => ?_)
      · have flag : s.updateRunning = true := marked (by omega)
        have clear : s.updateRunning = false := after (by
          simp only [UpdateTask.active]
          omega)
        rw [flag] at clear
        contradiction
      · rcases fine with nobody | ended
        · exact requested nobody
        · rw [refused] at ended
          contradiction
    · rename_i ended
      refine iff_of_true (fun idle => ?_) (Or.inr (by simpa using ended))
      simp [UpdateTask.active, WorkerPhase.active] at idle

/-- A refresh that throws leaves the flag set. -/
theorem rearmed_body (config : ManifestConfig) {s : UpdateTask} (single : SingleWorker s) (rearmed : Rearmed s)
    (worker : Nat) (ctx : RefreshContext) :
    Rearmed (updateStep config s (.body worker ctx)) ↔ Undisturbed config s (.body worker ctx) := by
  have exclusive := single.exclusive
  have marked := single.marked
  simp only [updateStep, Undisturbed, ← refresh_completed config ctx s.catalogue]
  split
  · rename_i addressed
    obtain ⟨rfl, only⟩ := workers_eq_singleton single.one addressed
    simp only [UpdateTask.active, only, List.countP_singleton, WorkerPhase.active, if_true]
      at exclusive marked
    have flag : s.updateRunning = true := marked (by omega)
    simp only [addressed, true_imp_iff]
    cases (refresh config ctx s.catalogue).completed with
    | true => simp [Rearmed, UpdateTask.active, only, WorkerPhase.active]
    | false =>
      -- The exception skips the statement that clears the flag.
      have nobody : s.requesters = 0 := by omega
      simp [Rearmed, UpdateTask.active, only, WorkerPhase.active, nobody, flag]
  · rename_i other
    refine iff_of_true rearmed fun running => ?_
    exact absurd running (by simpa using other)

/-- The steps of a thread before and behind its refresh keep the state rearmed. -/
theorem rearmed_worker (config : ManifestConfig) {s : UpdateTask} (single : SingleWorker s) (rearmed : Rearmed s)
    (worker : Nat) (now : UInt64) :
    Rearmed (updateStep config s (.enter worker)) ∧ Rearmed (updateStep config s (.clear worker now)) ∧
      Rearmed (updateStep config s (.exit worker)) := by
  refine ⟨?_, ?_, ?_⟩
  · -- A thread that enters `run` is active.
    simp only [updateStep]
    split
    · rename_i addressed
      obtain ⟨rfl, only⟩ := workers_eq_singleton single.one addressed
      intro idle
      simp [UpdateTask.active, only, WorkerPhase.active] at idle
    · exact rearmed
  · simp only [updateStep]
    split
    · exact fun _ => rfl
    · exact rearmed
  · -- A thread that has left `run` was not active before either.
    simp only [updateStep]
    split
    · rename_i addressed
      obtain ⟨rfl, only⟩ := workers_eq_singleton single.one addressed
      intro idle
      refine rearmed ?_
      simpa [UpdateTask.active, only, WorkerPhase.active] using idle
    · exact rearmed

/-- From a rearmed state, a step leads to one exactly when it is undisturbed. -/
theorem rearmed_updateStep (config : ManifestConfig) {s : UpdateTask} (single : SingleWorker s)
    (rearmed : Rearmed s) (event : UpdateEvent) :
    Rearmed (updateStep config s event) ↔ Undisturbed config s event := by
  -- The flag is lost where a caller gives up, and where the refresh throws.
  cases event with
  | testAndSet =>
    refine iff_of_true ?_ trivial
    simp only [updateStep]
    split
    · exact rearmed
    · -- The caller that has set the flag is about to start a refresh.
      intro idle
      simp only [UpdateTask.active] at idle
      omega
  | start => exact rearmed_start config single rearmed
  | enter worker => exact iff_of_true (rearmed_worker config single rearmed worker 0).1 trivial
  | body worker ctx => exact rearmed_body config single rearmed worker ctx
  | clear worker now => exact iff_of_true (rearmed_worker config single rearmed worker now).2.1 trivial
  | exit worker => exact iff_of_true (rearmed_worker config single rearmed worker 0).2.2 trivial

/--
At most one refresh executes at a time, and the flag is clear whenever none is active exactly when the
run is undisturbed.
-/
theorem rearmed_iff_undisturbed (config : ManifestConfig) (c : Catalogue)
    (events : List UpdateEvent) :
    (∀ s ∈ Transition.states (updateStep config) { catalogue := c } events,
      s.workers.countP WorkerPhase.inRun ≤ 1) ∧
    ((∀ s ∈ Transition.states (updateStep config) { catalogue := c } events, Rearmed s) ↔
      Transition.Along (updateStep config) (Undisturbed config) { catalogue := c } events) := by
  have initial : SingleWorker { catalogue := c } :=
    ⟨Nat.zero_le 1, by simp, Nat.zero_le 1, fun one => by simp [UpdateTask.active] at one⟩
  have always : Transition.Along (updateStep config) (fun _ _ => True) { catalogue := c } events :=
    Transition.along_true (updateStep config) _ _
  constructor
  · -- There is one thread at most, whatever it does.
    intro s reached
    have single : ∀ s ∈ Transition.states (updateStep config) { catalogue := c } events,
        SingleWorker s := Transition.invariant_along SingleWorker
      (fun _ event single _ => singleWorker_updateStep config single event) initial always
    exact (List.countP_le_length).trans (single s reached).one
  · exact Transition.property_iff_along Rearmed SingleWorker
      (fun _ event single _ _ _ => singleWorker_updateStep config single event)
      (fun _ event single rearmed _ => rearmed_updateStep config single rearmed event)
      initial (fun _ => rfl) always

/-- A refresh over a bucket with a document that is no JSON, from its request to the end of its thread. -/
def unreadableRun : List UpdateEvent :=
  [.testAndSet, .start, .enter 0,
    .body 0 (refreshOver (.last [{ key := "r1.json", content := some "r1" }])), .exit 0]

/-- After an unreadable document the flag stays set, although the refresh is over. -/
theorem not_rearmed_after_unreadable :
    ¬ ∀ s ∈ Transition.states (updateStep oneManifest) {} unreadableRun, Rearmed s := by
  intro all
  -- No thread is left to clear the flag.
  have last := all _ (Transition.last_mem_states _ unreadableRun)
  have idle : (unreadableRun.foldl (updateStep oneManifest) {}).active = 0 := by decide +kernel
  have flag : (unreadableRun.foldl (updateStep oneManifest) {}).updateRunning = true := by
    decide +kernel
  rw [last idle] at flag
  contradiction

end Fms
