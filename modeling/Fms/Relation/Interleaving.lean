import Fms.Relation.Run
import Mathlib.Logic.Function.Basic

/-! Threads that take turns on a shared state, and assertions they may rely on meanwhile. -/

universe u v w x

/-- A shared state, and the point each thread has reached. -/
structure Interleaving (ι : Type u) (σ : Type v) (π : Type w) where
  /-- What all threads read and write. -/
  shared : σ
  /-- Where each thread stands, with what it has read so far. -/
  threads : ι → π

namespace Interleaving

variable {ι : Type u} {σ : Type v} {π : Type w} {α : Type x}

/-- The threads before any of them has started. -/
def start (shared : σ) (idle : π) : Interleaving ι σ π :=
  ⟨shared, fun _ => idle⟩

/--
An invariant of the shared state, an assertion at each thread, and a relation between every two threads.
-/
structure Holds (invariant : σ → Prop) (assertion : π → σ → Prop) (apart : π → π → Prop)
    (s : Interleaving ι σ π) : Prop where
  invariant : invariant s.shared
  assertion : ∀ thread, assertion (s.threads thread) s.shared
  apart : ∀ left right, left ≠ right → apart (s.threads left) (s.threads right)

variable {invariant : σ → Prop} {assertion : π → σ → Prop} {apart : π → π → Prop}

/-- Threads that have not started hold what an idle one does. -/
theorem holds_start {shared : σ} {idle : π} (initial : invariant shared)
    (asserted : assertion idle shared) (separate : apart idle idle) :
    Holds (ι := ι) invariant assertion apart (start shared idle) :=
  ⟨initial, fun _ => asserted, fun _ _ _ => separate⟩

/-- A thread on its own, from where it stands, over some turns. -/
def alone (act : π → σ → α → π × σ) (before : π × σ) (turns : List α) : π × σ :=
  turns.foldl (fun (point, shared) input => act point shared input) before

/-- The first turn comes before the others. -/
theorem alone_cons (act : π → σ → α → π × σ) (before : π × σ) (input : α) (rest : List α) :
    alone act before (input :: rest) = alone act (act before.1 before.2 input) rest :=
  rfl

variable [DecidableEq ι]

/-- One thread takes its turn, and the others stay where they are. -/
def step (act : π → σ → α → π × σ) (s : Interleaving ι σ π) (turn : ι × α) : Interleaving ι σ π where
  shared := (act (s.threads turn.1) s.shared turn.2).2
  threads := Function.update s.threads turn.1 (act (s.threads turn.1) s.shared turn.2).1

variable {act : π → σ → α → π × σ} {s : Interleaving ι σ π}

/-- The thread whose turn it was has moved. -/
@[simp] theorem threads_step_self (turn : ι × α) :
    (step act s turn).threads turn.1 = (act (s.threads turn.1) s.shared turn.2).1 :=
  Function.update_self turn.1 _ s.threads

/-- The other threads have not. -/
theorem threads_step_of_ne {turn : ι × α} {other : ι} (apart : other ≠ turn.1) :
    (step act s turn).threads other = s.threads other :=
  Function.update_of_ne apart _ s.threads

/-- A thread that no other one interrupts does what it does on its own. -/
theorem uninterrupted (s : Interleaving ι σ π) (thread : ι) (turns : List α) :
    ((turns.map fun input => (thread, input)).foldl (step act) s).shared =
        (alone act (s.threads thread, s.shared) turns).2 ∧
      ((turns.map fun input => (thread, input)).foldl (step act) s).threads thread =
        (alone act (s.threads thread, s.shared) turns).1 := by
  -- Each turn starts where the one before it has left the thread.
  induction turns generalizing s with
  | nil => exact ⟨rfl, rfl⟩
  | cons input rest ih =>
    obtain ⟨shared, point⟩ := ih (step act s (thread, input))
    rw [threads_step_self] at shared point
    exact ⟨shared, point⟩

/--
A turn keeps what holds when the thread itself does, and interferes with no other thread.

The assertions of the others have to survive the change of the shared state.
-/
theorem Holds.step (holds : Holds invariant assertion apart s) {turn : ι × α}
    (own : invariant (act (s.threads turn.1) s.shared turn.2).2 ∧
      assertion (act (s.threads turn.1) s.shared turn.2).1 (act (s.threads turn.1) s.shared turn.2).2)
    (stable : ∀ other, other ≠ turn.1 → assertion (s.threads other) s.shared →
      assertion (s.threads other) (act (s.threads turn.1) s.shared turn.2).2)
    (separate : ∀ other, other ≠ turn.1 →
      apart (act (s.threads turn.1) s.shared turn.2).1 (s.threads other) ∧
        apart (s.threads other) (act (s.threads turn.1) s.shared turn.2).1) :
    Holds invariant assertion apart (step act s turn) := by
  refine ⟨own.1, fun thread => ?_, fun left right different => ?_⟩
  · by_cases self : thread = turn.1
    · rw [self, threads_step_self]
      exact own.2
    · rw [threads_step_of_ne self]
      exact stable thread self (holds.assertion thread)
  · -- At most one of the two threads has moved.
    by_cases leftMoved : left = turn.1
    · have rightStays : right ≠ turn.1 := fun same => different (leftMoved.trans same.symm)
      rw [leftMoved, threads_step_self, threads_step_of_ne rightStays]
      exact (separate right rightStays).1
    · rw [threads_step_of_ne leftMoved]
      by_cases rightMoved : right = turn.1
      · rw [rightMoved, threads_step_self]
        exact (separate left leftMoved).2
      · rw [threads_step_of_ne rightMoved]
        exact holds.apart left right different

/-- What every permitted turn keeps holds in every state of an interleaving whose turns are permitted. -/
theorem holds_along {permitted : Interleaving ι σ π → ι × α → Prop}
    (kept : ∀ s turn, Holds invariant assertion apart s → permitted s turn →
      Holds invariant assertion apart (Interleaving.step act s turn))
    (initial : Holds invariant assertion apart s) {turns : List (ι × α)}
    (along : Transition.Along (Interleaving.step act) permitted s turns) :
    ∀ reached ∈ Transition.states (Interleaving.step act) s turns,
      Holds invariant assertion apart reached :=
  Transition.invariant_along (Holds invariant assertion apart) kept initial along

end Interleaving
