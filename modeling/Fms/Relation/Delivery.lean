import Fms.Relation.Run
import Mathlib.Logic.Function.Basic

/-!
A consumer of partitioned logs that hands its messages to workers, and commits them on the way.

The workers keep their messages in memory, which a restart clears, and write to a store, which stays.
-/

universe u v w x y

namespace Delivery

/-- A message, and its place in the logs. -/
structure Envelope (κ : Type u) (μ : Type v) where
  partition : κ
  offset : Nat
  message : μ

/-- The logs and the store, which are kept, and what the consumer and the workers have in memory. -/
structure State (κ : Type u) (τ : Type v) (μ : Type w) (δ : Type x) (γ : Type y) where
  log : κ → List μ
  /-- How far each log is known to have been read. -/
  committed : κ → Nat
  store : δ
  /-- How far each log has been read since the start. -/
  position : κ → Nat
  /-- The message that has been dispatched, and is about to be committed. -/
  uncommitted : Option (Envelope κ μ)
  consuming : Bool
  /-- Whether the messages for a worker are put into its queue. -/
  watched : τ → Bool
  running : τ → Bool
  waiting : τ → List (Envelope κ μ)
  inHand : τ → Option (Envelope κ μ)
  /-- The messages the workers have been through, oldest first, with what they found outside. -/
  handled : List (γ × Envelope κ μ)

/-- What can happen next. -/
inductive Turn (κ : Type u) (τ : Type v) (μ : Type w) (γ : Type y) where
  | produce (partition : κ) (message : μ)
  /-- The next message of a log is handed over to the queue of its worker. -/
  | dispatch (partition : κ)
  | commit
  /-- Committing throws, which ends the consumer. -/
  | commitFailed
  /-- A worker takes the first message from its queue. -/
  | take (worker : τ)
  /-- A worker handles the message it has taken. -/
  | handle (worker : τ) (context : γ)
  /-- A worker is told to stop; it ends with the message it has taken. -/
  | stopWorker (worker : τ)
  | stopConsumer
  /-- The process ends, in whatever state it is, and starts again. -/
  | restart

section

variable {κ : Type u} {τ : Type v} {μ : Type w} {δ : Type x} {γ : Type y}

/-- Before anything has been produced. -/
def start (store : δ) : State κ τ μ δ γ where
  log _ := []
  committed _ := 0
  store
  position _ := 0
  uncommitted := none
  consuming := true
  watched _ := true
  running _ := true
  waiting _ := []
  inHand _ := none
  handled := []

variable [DecidableEq κ] [DecidableEq τ]

/--
One turn, for workers that handle messages in contexts; a worker that throws has no result.

A turn that is not possible changes nothing.
-/
def step (workerOf : κ → τ) (handler : τ → γ → δ → μ → Option δ) (s : State κ τ μ δ γ) :
    Turn κ τ μ γ → State κ τ μ δ γ
  | .produce partition message =>
    { s with log := Function.update s.log partition (s.log partition ++ [message]) }
  | .dispatch partition =>
    match s.consuming, s.uncommitted, (s.log partition)[s.position partition]? with
    | true, none, some message =>
      let envelope := ⟨partition, s.position partition, message⟩
      let worker := workerOf partition
      { s with
        position := Function.update s.position partition (s.position partition + 1)
        uncommitted := some envelope
        waiting :=
          if s.watched worker then
            Function.update s.waiting worker (s.waiting worker ++ [envelope])
          else s.waiting }
    | _, _, _ => s
  | .commit =>
    match s.uncommitted with
    | some envelope => { s with
        committed := Function.update s.committed envelope.partition (envelope.offset + 1)
        uncommitted := none }
    | none => s
  | .commitFailed =>
    match s.uncommitted with
    | some _ => { s with uncommitted := none, consuming := false }
    | none => s
  | .take worker =>
    match s.running worker, s.inHand worker, s.waiting worker with
    | true, none, envelope :: rest => { s with
        waiting := Function.update s.waiting worker rest
        inHand := Function.update s.inHand worker (some envelope) }
    | _, _, _ => s
  | .handle worker context =>
    match s.inHand worker with
    | some envelope =>
      let result := handler worker context s.store envelope.message
      { s with
        store := result.getD s.store
        running := if result.isSome then s.running else Function.update s.running worker false
        inHand := Function.update s.inHand worker none
        handled := s.handled ++ [(context, envelope)] }
    | none => s
  | .stopWorker worker => { s with
      watched := Function.update s.watched worker false
      running := Function.update s.running worker false }
  | .stopConsumer => if s.uncommitted.isNone then { s with consuming := false } else s
  | .restart => { s with
      position := s.committed
      uncommitted := none
      consuming := true
      watched := fun _ => true
      running := fun _ => true
      waiting := fun _ => []
      inHand := fun _ => none }

/-- The message at a place has been handled. -/
def Handled (s : State κ τ μ δ γ) (partition : κ) (offset : Nat) : Prop :=
  ∃ context envelope, (context, envelope) ∈ s.handled ∧ envelope.partition = partition ∧
    envelope.offset = offset

/-- A message waits for its worker, or its worker has taken it. -/
def InMemory (s : State κ τ μ δ γ) (envelope : Envelope κ μ) : Prop :=
  ∃ worker, envelope ∈ s.waiting worker ∨ s.inHand worker = some envelope

/-- The message at a place waits for its worker, or its worker has taken it. -/
def Kept (s : State κ τ μ δ γ) (partition : κ) (offset : Nat) : Prop :=
  ∃ envelope, InMemory s envelope ∧ envelope.partition = partition ∧ envelope.offset = offset

/-- A message that is committed has been handled, or is still in memory. -/
def NotLost (partition : κ) (offset : Nat) (s : State κ τ μ δ γ) : Prop :=
  offset < s.committed partition → Handled s partition offset ∨ Kept s partition offset

/--
A turn does not lose a message.

A restart does, when the message is committed and in memory only. A commit does, when the message is
neither handled nor in memory.
-/
def Keeps (partition : κ) (offset : Nat) (s : State κ τ μ δ γ) : Turn κ τ μ γ → Prop
  | .restart => offset < s.committed partition → Kept s partition offset →
      Handled s partition offset
  | .commit => ∀ envelope, s.uncommitted = some envelope → envelope.partition = partition →
      envelope.offset = offset → Handled s partition offset ∨ Kept s partition offset
  | _ => True

/-- Every message has been read and committed, and none is in memory. -/
def Complete (s : State κ τ μ δ γ) : Prop :=
  (∀ partition, s.committed partition = (s.log partition).length) ∧
    ∀ envelope, ¬ InMemory s envelope

/-- What the handled messages make of a store, one after the other. -/
def replay (workerOf : κ → τ) (handler : τ → γ → δ → μ → Option δ) (store : δ)
    (handled : List (γ × Envelope κ μ)) : δ :=
  handled.foldl (fun store entry =>
    (handler (workerOf entry.2.partition) entry.1 store entry.2.message).getD store) store

/-- What holds in every state, whatever has been lost. -/
structure Sound (workerOf : κ → τ) (handler : τ → γ → δ → μ → Option δ) (initial : δ)
    (s : State κ τ μ δ γ) : Prop where
  /-- What is in memory is in the logs, and goes to the right worker. -/
  waits : ∀ worker envelope, envelope ∈ s.waiting worker ∨ s.inHand worker = some envelope →
    (s.log envelope.partition)[envelope.offset]? = some envelope.message ∧
      workerOf envelope.partition = worker
  logged : ∀ context envelope, (context, envelope) ∈ s.handled →
    (s.log envelope.partition)[envelope.offset]? = some envelope.message
  /-- Between two messages everything that has been read is committed. -/
  idle : s.consuming = true → s.uncommitted = none → s.position = s.committed
  /-- Only the message that has just been dispatched is not. -/
  pending : ∀ envelope, s.uncommitted = some envelope →
    s.committed envelope.partition = envelope.offset ∧
      s.position = Function.update s.committed envelope.partition (envelope.offset + 1)
  stored : s.store = replay workerOf handler initial s.handled

variable {workerOf : κ → τ} {handler : τ → γ → δ → μ → Option δ} {initial : δ}
  {s : State κ τ μ δ γ}

omit [DecidableEq τ] in
/-- A message stays where it is in a log that grows. -/
theorem getElem?_grown {log : κ → List μ} {partition grown : κ} {offset : Nat} {message added : μ}
    (before : (log partition)[offset]? = some message) :
    (Function.update log grown (log grown ++ [added]) partition)[offset]? = some message := by
  by_cases same : partition = grown
  · subst same
    -- A place that is taken is not at the end, where the new message goes.
    obtain ⟨inside, _⟩ := List.getElem?_eq_some_iff.mp before
    rw [Function.update_self, List.getElem?_append_left inside]
    exact before
  · rw [Function.update_of_ne same]
    exact before

omit [DecidableEq τ] in
/-- Producing a message keeps what holds. -/
theorem Sound.produce (sound : Sound workerOf handler initial s) (partition : κ) (message : μ) :
    Sound workerOf handler initial
      { s with log := Function.update s.log partition (s.log partition ++ [message]) } where
  waits worker envelope there :=
    ⟨getElem?_grown (sound.waits worker envelope there).1, (sound.waits worker envelope there).2⟩
  logged context envelope member := getElem?_grown (sound.logged context envelope member)
  idle := sound.idle
  pending := sound.pending
  stored := sound.stored

/-- Dispatching a message keeps what holds. -/
theorem Sound.dispatch (sound : Sound workerOf handler initial s) {partition : κ} {message : μ}
    (consuming : s.consuming = true) (ready : s.uncommitted = none)
    (next : (s.log partition)[s.position partition]? = some message) (waiting : τ → List (Envelope κ μ))
    (queued : waiting = s.waiting ∨ waiting = Function.update s.waiting (workerOf partition)
      (s.waiting (workerOf partition) ++ [⟨partition, s.position partition, message⟩])) :
    Sound workerOf handler initial { s with
      position := Function.update s.position partition (s.position partition + 1)
      uncommitted := some ⟨partition, s.position partition, message⟩
      waiting } where
  waits worker envelope there := by
    -- The queue has grown by the message, if at all.
    rcases queued with rfl | rfl
    · exact sound.waits worker envelope there
    · by_cases same : worker = workerOf partition
      · subst same
        simp only [Function.update_self, List.mem_append, List.mem_singleton] at there
        rcases there with (before | rfl) | held
        · exact sound.waits _ envelope (Or.inl before)
        · exact ⟨next, rfl⟩
        · exact sound.waits _ envelope (Or.inr held)
      · simp only [Function.update_of_ne same] at there
        exact sound.waits worker envelope there
  logged := sound.logged
  idle _ none_ := by simp at none_
  pending envelope same := by
    cases same
    have level := sound.idle consuming ready
    exact ⟨by rw [level], by rw [level]⟩
  stored := sound.stored

/-- Taking a message from a queue keeps what holds. -/
theorem Sound.take (sound : Sound workerOf handler initial s) {worker : τ} {envelope : Envelope κ μ}
    {rest : List (Envelope κ μ)} (first : s.waiting worker = envelope :: rest) :
    Sound workerOf handler initial { s with
      waiting := Function.update s.waiting worker rest
      inHand := Function.update s.inHand worker (some envelope) } where
  waits other kept there := by
    by_cases same : other = worker
    · subst same
      simp only [Function.update_self] at there
      -- What waits behind the message, or is the message, has waited before.
      have before : kept ∈ s.waiting other := by
        rw [first, List.mem_cons]
        rcases there with later | taken
        · exact Or.inr later
        · exact Or.inl (Option.some.inj taken).symm
      exact sound.waits other kept (Or.inl before)
    · simp only [Function.update_of_ne same] at there
      exact sound.waits other kept there
  logged := sound.logged
  idle := sound.idle
  pending := sound.pending
  stored := sound.stored

/-- Handling a message keeps what holds. -/
theorem Sound.handle (sound : Sound workerOf handler initial s) {worker : τ} (context : γ)
    {envelope : Envelope κ μ} (held : s.inHand worker = some envelope) (running : τ → Bool) :
    Sound workerOf handler initial { s with
      store := (handler worker context s.store envelope.message).getD s.store
      running
      inHand := Function.update s.inHand worker none
      handled := s.handled ++ [(context, envelope)] } where
  waits other kept there := by
    by_cases same : other = worker
    · subst same
      simp only [Function.update_self] at there
      -- The hand of the worker is empty now.
      rcases there with waits | nothing
      · exact sound.waits other kept (Or.inl waits)
      · contradiction
    · simp only [Function.update_of_ne same] at there
      exact sound.waits other kept there
  logged other kept member := by
    rcases List.mem_append.mp member with before | added
    · exact sound.logged other kept before
    · cases List.mem_singleton.mp added
      exact (sound.waits worker envelope (Or.inr held)).1
  idle := sound.idle
  pending := sound.pending
  stored := by
    -- The message goes to the worker of its partition.
    have right_ := (sound.waits worker envelope (Or.inr held)).2
    rw [replay, List.foldl_append, List.foldl_cons, List.foldl_nil, ← replay, ← sound.stored, right_]

/-- Every turn keeps what holds. -/
theorem Sound.step (sound : Sound workerOf handler initial s) (turn : Turn κ τ μ γ) :
    Sound workerOf handler initial (step workerOf handler s turn) := by
  cases turn with
  | produce partition message => exact sound.produce partition message
  | dispatch partition =>
    simp only [Delivery.step]
    split
    · rename_i message consuming ready next
      refine sound.dispatch consuming ready next _ ?_
      split
      · exact Or.inr rfl
      · exact Or.inl rfl
    · exact sound
  | commit =>
    simp only [Delivery.step]
    cases uncommitted : s.uncommitted with
    | none => exact sound
    | some envelope =>
      -- With the commit, everything that has been read is committed again.
      obtain ⟨_, position⟩ := sound.pending envelope uncommitted
      exact ⟨sound.waits, sound.logged, fun _ _ => position, fun _ some_ => by simp at some_,
        sound.stored⟩
  | commitFailed =>
    simp only [Delivery.step]
    cases uncommitted : s.uncommitted with
    | none => exact sound
    | some envelope =>
      exact ⟨sound.waits, sound.logged, fun consuming => by simp at consuming,
        fun _ some_ => by simp at some_, sound.stored⟩
  | take worker =>
    simp only [Delivery.step]
    split
    · rename_i envelope rest _ _ first
      exact sound.take first
    · exact sound
  | handle worker context =>
    simp only [Delivery.step]
    cases held : s.inHand worker with
    | none => exact sound
    | some envelope => exact sound.handle context held _
  | stopWorker worker =>
    exact ⟨sound.waits, sound.logged, sound.idle, sound.pending, sound.stored⟩
  | stopConsumer =>
    simp only [Delivery.step]
    split
    · exact ⟨sound.waits, sound.logged, fun consuming => by simp at consuming, sound.pending,
        sound.stored⟩
    · exact sound
  | restart =>
    -- Nothing is left in memory, and reading starts where the commits have come to.
    refine ⟨?_, sound.logged, fun _ _ => rfl, ?_, sound.stored⟩
    · intro worker envelope there
      simp [Delivery.step] at there
    · intro envelope some_
      simp [Delivery.step] at some_

omit [DecidableEq κ] [DecidableEq τ] in
/-- Nothing is lost where what was in memory is there still, or has been handled. -/
theorem NotLost.of_kept {s' : State κ τ μ δ γ} {partition : κ} {offset : Nat}
    (notLost : NotLost partition offset s) (committed : s'.committed = s.committed)
    (handled : ∀ entry ∈ s.handled, entry ∈ s'.handled)
    (memory : ∀ envelope, InMemory s envelope →
      InMemory s' envelope ∨ Handled s' envelope.partition envelope.offset) :
    NotLost partition offset s' := by
  intro before
  rw [committed] at before
  -- A message that was handled still is, and one in memory is followed there.
  rcases notLost before with ⟨context, envelope, member, place⟩ | ⟨envelope, there, rfl, rfl⟩
  · exact Or.inl ⟨context, envelope, handled _ member, place⟩
  · rcases memory envelope there with still | done
    · exact Or.inr ⟨envelope, still, rfl, rfl⟩
    · exact Or.inl done

omit [DecidableEq κ] in
/-- A message that is taken from a queue stays in memory. -/
theorem inMemory_take {worker : τ} {envelope kept : Envelope κ μ} {rest : List (Envelope κ μ)}
    (free : s.inHand worker = none) (first : s.waiting worker = envelope :: rest)
    (there : InMemory s kept) :
    InMemory { s with
      waiting := Function.update s.waiting worker rest
      inHand := Function.update s.inHand worker (some envelope) } kept := by
  obtain ⟨other, there⟩ := there
  refine ⟨other, ?_⟩
  by_cases same : other = worker
  · subst same
    simp only [Function.update_self]
    rw [first, free, List.mem_cons] at there
    -- The first message goes from the queue into the hand; the others move up.
    rcases there with (rfl | later) | nothing
    · exact Or.inr rfl
    · exact Or.inl later
    · contradiction
  · simp only [Function.update_of_ne same]
    exact there

omit [DecidableEq κ] in
/-- A message that is in memory stays there while a worker handles another one. -/
theorem inMemory_handle {worker : τ} {context : γ} {envelope kept : Envelope κ μ} {store : δ}
    {running : τ → Bool} (held : s.inHand worker = some envelope) (there : InMemory s kept) :
    let after : State κ τ μ δ γ := { s with
      store, running
      inHand := Function.update s.inHand worker none
      handled := s.handled ++ [(context, envelope)] }
    InMemory after kept ∨ Handled after kept.partition kept.offset := by
  obtain ⟨other, waits | taken⟩ := there
  · exact Or.inl ⟨other, Or.inl waits⟩
  · by_cases same : other = worker
    · subst same
      -- It is the very message that has been handled.
      cases held.symm.trans taken
      exact Or.inr ⟨context, envelope, by simp, rfl, rfl⟩
    · refine Or.inl ⟨other, Or.inr ?_⟩
      simpa only [Function.update_of_ne same] using taken

/-- Committing a message loses it exactly when it is neither handled nor in memory. -/
theorem notLost_commit_iff (sound : Sound workerOf handler initial s) {partition : κ} {offset : Nat}
    (notLost : NotLost partition offset s) :
    NotLost partition offset (step workerOf handler s .commit) ↔
      Keeps partition offset s (.commit : Turn κ τ μ γ) := by
  simp only [step, Keeps]
  cases uncommitted : s.uncommitted with
  | none => simpa using notLost
  | some envelope =>
    have level := (sound.pending envelope uncommitted).1
    simp only [Option.some_inj, forall_eq']
    constructor
    · rintro after rfl rfl
      exact after (by simp)
    · intro keeps before
      simp only at before
      by_cases same : envelope.partition = partition
      · subst same
        rw [Function.update_self] at before
        -- The commit moves the mark past one message.
        rcases Nat.lt_succ_iff_lt_or_eq.mp before with earlier | last
        · exact notLost (level ▸ earlier)
        · exact keeps rfl last.symm
      · rw [Function.update_of_ne (Ne.symm same)] at before
        exact notLost before

/-- A restart loses a message exactly when it is committed and in memory only. -/
theorem notLost_restart_iff {partition : κ} {offset : Nat} (notLost : NotLost partition offset s) :
    NotLost partition offset (step workerOf handler s .restart) ↔
      Keeps partition offset s (.restart : Turn κ τ μ γ) := by
  -- Only the record of what has been handled is left to vouch for a message.
  have cleared : ¬ Kept (step workerOf handler s .restart) partition offset := by
    rintro ⟨envelope, ⟨worker, there⟩, _⟩
    simp [step] at there
  constructor
  · intro after before _
    exact (after before).resolve_right cleared
  · intro keeps before
    rcases notLost before with handled | kept
    · exact Or.inl handled
    · exact Or.inl (keeps before kept)

/-- What one turn does to a message that has not been lost. -/
theorem notLost_step_iff (sound : Sound workerOf handler initial s) {partition : κ} {offset : Nat}
    (notLost : NotLost partition offset s) (turn : Turn κ τ μ γ) :
    NotLost partition offset (step workerOf handler s turn) ↔ Keeps partition offset s turn := by
  cases turn with
  | commit => exact notLost_commit_iff sound notLost
  | restart => exact notLost_restart_iff notLost
  | produce grown message =>
    exact iff_of_true (notLost.of_kept rfl (fun _ member => member) fun _ there => Or.inl there) trivial
  | stopWorker worker =>
    exact iff_of_true (notLost.of_kept rfl (fun _ member => member) fun _ there => Or.inl there) trivial
  | stopConsumer =>
    refine iff_of_true ?_ trivial
    simp only [step]
    split
    · exact notLost
    · exact notLost
  | commitFailed =>
    refine iff_of_true ?_ trivial
    simp only [step]
    split
    · exact notLost
    · exact notLost
  | dispatch next =>
    refine iff_of_true ?_ trivial
    simp only [step]
    split
    · refine notLost.of_kept rfl (fun _ member => member) fun envelope there => Or.inl ?_
      obtain ⟨worker, there⟩ := there
      refine ⟨worker, there.imp_left fun waits => ?_⟩
      -- A queue only grows by a dispatch.
      simp only
      split
      · by_cases same : worker = workerOf next
        · subst same
          rw [Function.update_self]
          exact List.mem_append_left _ waits
        · rw [Function.update_of_ne same]
          exact waits
      · exact waits
    · exact notLost
  | take worker =>
    refine iff_of_true ?_ trivial
    simp only [step]
    split
    · rename_i envelope rest _ free first
      exact notLost.of_kept rfl (fun _ member => member) fun _ there =>
        Or.inl (inMemory_take free first there)
    · exact notLost
  | handle worker context =>
    refine iff_of_true ?_ trivial
    simp only [step]
    cases held : s.inHand worker with
    | none => exact notLost
    | some envelope =>
      exact notLost.of_kept rfl (fun _ member => List.mem_append_left _ member) fun _ there =>
        inMemory_handle held there

omit [DecidableEq τ] in
/-- Before anything has been produced everything is in order. -/
theorem sound_start (store : δ) :
    Sound workerOf handler store (start store : State κ τ μ δ γ) where
  waits worker envelope there := by simp [start] at there
  logged context envelope member := by simp [start] at member
  idle _ _ := rfl
  pending envelope some_ := by simp [start] at some_
  stored := rfl

/-- A message is not lost at any point of a run exactly when no turn of the run loses it. -/
theorem notLost_along_iff (workerOf : κ → τ) (handler : τ → γ → δ → μ → Option δ) (store : δ)
    (partition : κ) (offset : Nat) (turns : List (Turn κ τ μ γ)) :
    (∀ reached ∈ Transition.states (step workerOf handler) (start store) turns,
        NotLost partition offset reached) ↔
      Transition.Along (step workerOf handler) (Keeps partition offset) (start store) turns := by
  -- At the start nothing is committed, so there is nothing to lose.
  have nothing : NotLost partition offset (start store : State κ τ μ δ γ) :=
    fun before => absurd before (Nat.not_lt_zero _)
  exact Transition.property_iff_along (NotLost partition offset) (Sound workerOf handler store)
    (fun _ turn sound _ _ _ => sound.step turn)
    (fun _ turn sound notLost _ => notLost_step_iff sound notLost turn) (sound_start store) nothing
    (Transition.along_true _ _ _)

/-- Every state of a run is sound. -/
theorem sound_along (workerOf : κ → τ) (handler : τ → γ → δ → μ → Option δ) (store : δ)
    (turns : List (Turn κ τ μ γ)) :
    ∀ reached ∈ Transition.states (step workerOf handler) (start store) turns,
      Sound workerOf handler store reached :=
  Transition.invariant_along _ (fun _ turn sound _ => sound.step turn) (sound_start store)
    (Transition.along_true _ _ _)

omit [DecidableEq τ] in
/-- When everything has been read and nothing is in memory, a message that is not lost is handled. -/
theorem handled_of_complete (sound : Sound workerOf handler initial s) (complete : Complete s)
    {partition : κ} {offset : Nat} {message : μ} (notLost : NotLost partition offset s)
    (logged : (s.log partition)[offset]? = some message) :
    ∃ context, (context, (⟨partition, offset, message⟩ : Envelope κ μ)) ∈ s.handled := by
  obtain ⟨inside, _⟩ := List.getElem?_eq_some_iff.mp logged
  rcases notLost (by rw [complete.1 partition]; exact inside) with handled | kept
  · obtain ⟨context, envelope, member, rfl, rfl⟩ := handled
    -- What has been handled there is what the log has there.
    have same := Option.some.inj ((sound.logged context envelope member).symm.trans logged)
    exact ⟨context, same ▸ member⟩
  · obtain ⟨envelope, there, _⟩ := kept
    exact absurd there (complete.2 envelope)

end

end Delivery
