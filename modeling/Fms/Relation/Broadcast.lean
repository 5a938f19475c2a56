import Mathlib.Logic.Function.Basic
import Fms.Relation.Run

/-! Parties that post messages to one log, each through a queue of its own, and that all read the log in order. -/

universe u v w x y

namespace Broadcast

/-- The log, and what each party has queued, has read, knows, and has posted so far. -/
structure State (ι : Type u) (μ : Type v) (σ : Type w) where
  /-- The messages in the order of the log, each with its sender. -/
  log : List (ι × μ) := []
  queue : ι → List μ := fun _ => []
  /-- How many messages of the log a party has read. -/
  position : ι → Nat := fun _ => 0
  knows : ι → σ
  /-- All messages of a party, whether or not they have arrived. -/
  posted : ι → List μ := fun _ => []

/-- What the parties do of their own accord, with a message they read, and when they start anew. -/
structure Protocol (ι : Type u) (μ : Type v) (σ : Type w) (α : Type x) (γ : Type y) where
  act : ι → α → σ → σ × List μ
  receive : ι → γ → μ → σ → σ
  boot : ι → σ → σ

/-- What happens, one thing at a time. -/
inductive Turn (ι : Type u) (α : Type x) (γ : Type y) where
  | act (party : ι) (input : α)
  /-- The first message of a queue arrives in the log. -/
  | arrive (party : ι)
  /-- The first message of a queue is lost. -/
  | lose (party : ι)
  /-- A party reads the next message of the log. -/
  | read (party : ι) (context : γ)
  /-- A party starts anew, behind what it has read; its queue is lost. -/
  | restart (party : ι)

variable {ι : Type u} {μ : Type v} {σ : Type w} {α : Type x} {γ : Type y} [DecidableEq ι]

/-- The state after a turn. -/
@[grind =]
def step (p : Protocol ι μ σ α γ) (s : State ι μ σ) : Turn ι α γ → State ι μ σ
  | .act i input =>
    let (own, messages) := p.act i input (s.knows i)
    { s with
      queue := Function.update s.queue i (s.queue i ++ messages)
      knows := Function.update s.knows i own
      posted := Function.update s.posted i (s.posted i ++ messages) }
  | .arrive i =>
    match s.queue i with
    | [] => s
    | message :: rest =>
      { s with log := s.log ++ [(i, message)], queue := Function.update s.queue i rest }
  | .lose i => { s with queue := Function.update s.queue i (s.queue i).tail }
  | .read i context =>
    match s.log[s.position i]? with
    | none => s
    | some (_, message) => { s with
      position := Function.update s.position i (s.position i + 1)
      knows := Function.update s.knows i (p.receive i context message (s.knows i)) }
  | .restart i => { s with
      queue := Function.update s.queue i []
      knows := Function.update s.knows i (p.boot i (s.knows i)) }

/-- The messages of a party that have arrived. -/
def State.arrived (s : State ι μ σ) (sender : ι) : List μ :=
  (s.log.filter fun entry => decide (entry.1 = sender)).map Prod.snd

/-- The messages of a party that another one has read. -/
def State.readBy (s : State ι μ σ) (reader sender : ι) : List μ :=
  ((s.log.take (s.position reader)).filter fun entry => decide (entry.1 = sender)).map Prod.snd

/-- Nobody has read more than there is. -/
def State.Placed (s : State ι μ σ) : Prop := ∀ reader, s.position reader ≤ s.log.length

/-- Every message that is queued, or has arrived, is one that its sender may send. -/
def State.Sent (s : State ι μ σ) (may : ι → μ → Prop) : Prop :=
  (∀ sender message, message ∈ s.queue sender → may sender message) ∧
    ∀ entry ∈ s.log, may entry.1 entry.2

/-- A turn loses no message of a party: what would empty its queue finds it empty. -/
def Lossless (sender : ι) (s : State ι μ σ) : Turn ι α γ → Prop
  | .lose party | .restart party => party = sender → s.queue sender = []
  | .act _ _ | .arrive _ | .read _ _ => True

/-- Whether a turn loses a message can be checked. -/
instance decidableLossless [DecidableEq μ] (sender : ι) (s : State ι μ σ) :
    ∀ turn : Turn ι α γ, Decidable (Lossless sender s turn)
  | .act _ _ | .arrive _ | .read _ _ => isTrue trivial
  | .lose _ | .restart _ => inferInstanceAs (Decidable (_ → _))

variable {p : Protocol ι μ σ α γ} {s : State ι μ σ}

/-- A turn leaves everyone placed. -/
theorem State.Placed.step (placed : s.Placed) (turn : Turn ι α γ) : (Broadcast.step p s turn).Placed := by
  intro reader
  have before := placed reader
  cases turn with
  -- Only an arrival makes the log longer and only a reading moves a position, past an entry of the log.
  | act | lose | restart => exact before
  | arrive i =>
    simp only [Broadcast.step]
    split
    · exact before
    · show s.position reader ≤ (s.log ++ _).length
      rw [List.length_append]
      omega
  | read i context =>
    simp only [Broadcast.step]
    split
    · exact before
    · rename_i found
      have within : s.position i < s.log.length := (List.getElem?_eq_some_iff.mp found).1
      show Function.update s.position i (s.position i + 1) reader ≤ s.log.length
      by_cases same : reader = i
      · subst same
        rw [Function.update_self]
        omega
      · rw [Function.update_of_ne same]
        exact before

/-- A turn sends only what may be sent, if the parties do. -/
theorem State.Sent.step {may : ι → μ → Prop} (sent : s.Sent may)
    (acts : ∀ i input, ∀ message ∈ (p.act i input (s.knows i)).2, may i message) (turn : Turn ι α γ) :
    (Broadcast.step p s turn).Sent may := by
  obtain ⟨queued, logged⟩ := sent
  -- What is queued for one party is all that a turn changes of the queues.
  have updated : ∀ i (messages : List μ), (∀ message ∈ messages, may i message) →
      ∀ sender message, message ∈ Function.update s.queue i messages sender → may sender message := by
    intro i messages all sender message member
    by_cases same : sender = i
    · subst same
      rw [Function.update_self] at member
      exact all message member
    · rw [Function.update_of_ne same] at member
      exact queued sender message member
  cases turn with
  | act i input =>
    refine ⟨updated i _ fun message member => ?_, logged⟩
    rcases List.mem_append.mp member with old | new
    · exact queued i message old
    · exact acts i input message new
  | arrive i =>
    simp only [Broadcast.step]
    split
    · exact ⟨queued, logged⟩
    · rename_i first rest waiting
      have all := queued i
      rw [waiting] at all
      refine ⟨updated i rest fun message member => all message (List.mem_cons_of_mem first member), ?_⟩
      intro entry member
      rcases List.mem_append.mp member with old | new
      · exact logged entry old
      · rw [List.mem_singleton.mp new]
        exact all first List.mem_cons_self
  | lose i =>
    exact ⟨updated i _ fun message member => queued i message (List.mem_of_mem_tail member), logged⟩
  | read i context =>
    simp only [Broadcast.step]
    split <;> exact ⟨queued, logged⟩
  | restart i =>
    exact ⟨updated i [] fun message member => absurd member List.not_mem_nil, logged⟩

omit [DecidableEq ι] in
/-- The message that a party reads next is one that its sender may send. -/
theorem State.Sent.next {may : ι → μ → Prop} (sent : s.Sent may) {reader sender : ι} {message : μ}
    (next : s.log[s.position reader]? = some (sender, message)) : may sender message :=
  sent.2 _ (List.mem_of_getElem? next)

/-- The messages of a party are in the log or in its queue, if none has been lost. -/
theorem arrived_step {sender : ι} (all : s.arrived sender ++ s.queue sender = s.posted sender)
    {turn : Turn ι α γ} (lossless : Lossless sender s turn) :
    (step p s turn).arrived sender ++ (step p s turn).queue sender = (step p s turn).posted sender := by
  cases turn with
  | act i input =>
    simp only [step]
    by_cases same : sender = i
    · subst same
      rw [Function.update_self, Function.update_self, ← all, List.append_assoc]
      rfl
    · rw [Function.update_of_ne same, Function.update_of_ne same, ← all]
      rfl
  | arrive i =>
    simp only [step]
    split
    · exact all
    · rename_i first rest waiting
      by_cases same : sender = i
      · subst same
        -- The message moves from the front of the queue to the end of the log.
        have moved : ((s.log ++ [(sender, first)]).filter fun entry => decide (entry.1 = sender)).map Prod.snd =
            s.arrived sender ++ [first] := by
          simp [State.arrived]
        show ((s.log ++ [(sender, first)]).filter _).map Prod.snd ++ Function.update s.queue sender rest sender = _
        rw [moved, Function.update_self, List.append_assoc, List.singleton_append, ← waiting, all]
      · have kept : ((s.log ++ [(i, first)]).filter fun entry => decide (entry.1 = sender)).map Prod.snd =
            s.arrived sender := by
          simp [State.arrived, Ne.symm same]
        show ((s.log ++ [(i, first)]).filter _).map Prod.snd ++ Function.update s.queue i rest sender = _
        rw [kept, Function.update_of_ne same, all]
  | lose i | restart i =>
    -- A queue that is cut short belongs to another party, or had nothing in it.
    show s.arrived sender ++ Function.update s.queue i _ sender = s.posted sender
    by_cases same : sender = i
    · subst same
      have nothing : s.queue sender = [] := lossless rfl
      rw [Function.update_self, ← all]
      simp [nothing]
    · rw [Function.update_of_ne same, all]
  | read i context =>
    simp only [step]
    split <;> exact all

/-- What has been read of a party has arrived. -/
theorem readBy_arrived (s : State ι μ σ) (reader sender : ι) : s.readBy reader sender <+: s.arrived sender := by
  have front := List.take_prefix (s.position reader) s.log
  exact (front.filter _).map _

/-- With the message that is read next, what has been read of its sender is still what has arrived first. -/
theorem readBy_next {reader sender : ι} {message : μ} (next : s.log[s.position reader]? = some (sender, message)) :
    s.readBy reader sender ++ [message] <+: s.arrived sender := by
  have front := ((List.take_prefix (s.position reader + 1) s.log).filter fun entry => decide (entry.1 = sender)).map
    Prod.snd
  rw [List.take_add_one, next, Option.toList_some, List.filter_append, List.map_append] at front
  simpa [State.readBy, State.arrived] using front

/-- Who has read the whole log has read all that has arrived. -/
theorem readBy_of_all {reader : ι} (all : s.position reader = s.log.length) (sender : ι) :
    s.readBy reader sender = s.arrived sender := by
  rw [State.readBy, all, List.take_length]
  rfl

/-- What a turn does to a party: it acts, reads the next message, or starts anew, and otherwise stays as it is. -/
theorem party_step (p : Protocol ι μ σ α γ) (s : State ι μ σ) (turn : Turn ι α γ) (party : ι) :
    ((step p s turn).knows party = s.knows party ∧ (step p s turn).posted party = s.posted party) ∨
      (∃ input, turn = .act party input ∧ (step p s turn).knows party = (p.act party input (s.knows party)).1 ∧
        (step p s turn).posted party = s.posted party ++ (p.act party input (s.knows party)).2) ∨
      (∃ context sender message, turn = .read party context ∧ s.log[s.position party]? = some (sender, message) ∧
        (step p s turn).knows party = p.receive party context message (s.knows party) ∧
        (step p s turn).posted party = s.posted party) ∨
      (turn = .restart party ∧ (step p s turn).knows party = p.boot party (s.knows party) ∧
        (step p s turn).posted party = s.posted party) := by
  cases turn with
  -- A turn of another party, an arrival and a loss leave the party as it is.
  | act i input =>
    by_cases same : party = i
    · subst same
      exact Or.inr (Or.inl ⟨input, rfl, Function.update_self .., Function.update_self ..⟩)
    · exact Or.inl ⟨Function.update_of_ne same .., Function.update_of_ne same ..⟩
  | arrive i =>
    left
    simp only [step]
    split <;> exact ⟨rfl, rfl⟩
  | lose i => exact Or.inl ⟨rfl, rfl⟩
  | read i context =>
    cases found : s.log[s.position i]? with
    | none => exact Or.inl (by simp [step, found])
    | some entry =>
      obtain ⟨sender, message⟩ := entry
      by_cases same : party = i
      · subst same
        exact Or.inr (Or.inr (Or.inl ⟨context, sender, message, rfl, found, by simp [step, found]⟩))
      · exact Or.inl (by simp [step, found, same])
  | restart i =>
    by_cases same : party = i
    · subst same
      exact Or.inr (Or.inr (Or.inr ⟨rfl, Function.update_self .., rfl⟩))
    · exact Or.inl ⟨Function.update_of_ne same .., rfl⟩

/-- Arrivals behind what a party has read are not among it. -/
theorem readBy_arrive (placed : s.Placed) (party reader sender : ι) :
    (step p s (.arrive party)).readBy reader sender = s.readBy reader sender := by
  simp only [step]
  split
  · rfl
  · unfold State.readBy
    rw [List.take_append_of_le_length (placed reader)]

/-- A message that is read is the last one read of its sender. -/
theorem readBy_read {reader other : ι} {context : γ} {message : μ}
    (next : s.log[s.position reader]? = some (other, message)) (sender : ι) :
    (step p s (.read reader context)).readBy reader sender =
      s.readBy reader sender ++ if other = sender then [message] else [] := by
  simp only [step, next, State.readBy, Function.update_self]
  rw [List.take_add_one, next, Option.toList_some, List.filter_append, List.map_append]
  congr 1
  by_cases own : other = sender <;> simp [own]

/-- What a turn does to a party and to what it has read of another one: reading adds the message that is read. -/
theorem reader_step (placed : s.Placed) (turn : Turn ι α γ) (reader sender : ι) :
    ((step p s turn).knows reader = s.knows reader ∧ (step p s turn).readBy reader sender = s.readBy reader sender) ∨
      (∃ input, turn = .act reader input ∧ (step p s turn).knows reader = (p.act reader input (s.knows reader)).1 ∧
        (step p s turn).readBy reader sender = s.readBy reader sender) ∨
      (∃ context other message, turn = .read reader context ∧ s.log[s.position reader]? = some (other, message) ∧
        (step p s turn).knows reader = p.receive reader context message (s.knows reader) ∧
        (step p s turn).readBy reader sender =
          s.readBy reader sender ++ if other = sender then [message] else []) ∨
      (turn = .restart reader ∧ (step p s turn).knows reader = p.boot reader (s.knows reader) ∧
        (step p s turn).readBy reader sender = s.readBy reader sender) := by
  rcases party_step p s turn reader with ⟨same, -⟩ | ⟨input, rfl, after, -⟩ |
    ⟨context, other, message, rfl, next, after, -⟩ | ⟨rfl, after, -⟩
  · cases turn with
    | act | lose | restart => exact Or.inl ⟨same, rfl⟩
    | arrive i => exact Or.inl ⟨same, readBy_arrive placed i reader sender⟩
    | read i context =>
      cases found : s.log[s.position i]? with
      | none => exact Or.inl ⟨same, by simp only [step, found]⟩
      | some entry =>
        by_cases here : reader = i
        · -- The party itself reads, and what it knows happens to stay the same.
          subst here
          refine Or.inr (Or.inr (Or.inl ⟨context, entry.1, entry.2, rfl, found, by simp [step, found], ?_⟩))
          exact readBy_read found sender
        · exact Or.inl ⟨same, by simp only [step, found, State.readBy, Function.update_of_ne here]⟩
  · exact Or.inr (Or.inl ⟨input, rfl, after, rfl⟩)
  · exact Or.inr (Or.inr (Or.inl ⟨context, other, message, rfl, next, after, readBy_read next sender⟩))
  · exact Or.inr (Or.inr (Or.inr ⟨rfl, after, rfl⟩))

/--
What every party keeps true of what it knows is true in every state of a run.

A party may rely on the messages it reads being ones that their senders may send.
-/
theorem holds_run {may : ι → μ → Prop} {invariant : ι → σ → Prop}
    (acts : ∀ i input own, invariant i own →
      invariant i (p.act i input own).1 ∧ ∀ message ∈ (p.act i input own).2, may i message)
    (receives : ∀ i context sender message own, may sender message → invariant i own →
      invariant i (p.receive i context message own))
    (boots : ∀ i own, invariant i own → invariant i (p.boot i own))
    (sent : s.Sent may) (holds : ∀ i, invariant i (s.knows i)) (turns : List (Turn ι α γ)) :
    ∀ reached ∈ Transition.states (step p) s turns,
      reached.Sent may ∧ ∀ i, invariant i (reached.knows i) := by
  refine Transition.invariant_along
    (fun reached : State ι μ σ => reached.Sent may ∧ ∀ i, invariant i (reached.knows i)) ?_ ⟨sent, holds⟩
      (Transition.along_true _ _ _)
  intro before turn ⟨sent, holds⟩ _
  -- What is sent keeps `may`; the party itself rests, acts, reads a message sent before, or boots.
  refine ⟨sent.step (fun i input => (acts i input _ (holds i)).2) turn, fun i => ?_⟩
  rcases party_step p before turn i with ⟨same, _⟩ | ⟨input, _, after, _⟩ |
    ⟨context, sender, message, _, next, after, _⟩ | ⟨_, after, _⟩
  · rw [same]
    exact holds i
  · rw [after]
    exact (acts i input _ (holds i)).1
  · rw [after]
    exact receives i context sender message _ (sent.next next) (holds i)
  · rw [after]
    exact boots i _ (holds i)

end Broadcast
