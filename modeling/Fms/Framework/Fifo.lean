import Fms.Relation.Ring
import Fms.Relation.Run

/-! `FIFO`, a ring buffer that is empty where its two indices are equal. -/

namespace Fms

universe u

/-- A size the constructor of `FIFO` can be given, but for zero. -/
structure FifoSize where
  /-- `Size_`. -/
  value : Nat
  /-- There is a cell. -/
  positive : 0 < value
  /-- The size is a `uint32_t`. -/
  bounded : value < 4294967296

/-- `FIFO<T>`. -/
structure Fifo (α : Type u) (size : FifoSize) where
  read_ : Fin size.value
  write_ : Fin size.value
  used : UInt32
  maxEverUsed : UInt32
  /-- The array of the size, whose elements are not initialized. -/
  buffer : Fin size.value → α

namespace Fifo

variable {α : Type u} {size : FifoSize}

/-- The constructor, with what the array holds. -/
def new (size : FifoSize) (buffer : Fin size.value → α) : Fifo α size :=
  { read_ := ⟨0, size.positive⟩, write_ := ⟨0, size.positive⟩, used := 0, maxEverUsed := 0, buffer }

/-- `Read`: the element, or none where it returns false. -/
def read (fifo : Fifo α size) : Option α × Fifo α size :=
  if fifo.write_ = fifo.read_ then (none, fifo)
  else (some (fifo.buffer fifo.read_), { fifo with read_ := Ring.next fifo.read_, used := fifo.used - 1 })

/-- `Write`, which always returns false. -/
def write (fifo : Fifo α size) (t : α) : Bool × Fifo α size :=
  let used := fifo.used + 1
  (false, { fifo with
    buffer := Function.update fifo.buffer fifo.write_ t
    write_ := Ring.next fifo.write_
    used
    maxEverUsed := max used fifo.maxEverUsed })

/-- A call on a buffer. -/
inductive Call (α : Type u) where
  | write (t : α)
  | read

/-- A buffer, and the elements that are outstanding: written, and not yet read. -/
structure Observed (α : Type u) (size : FifoSize) where
  fifo : Fifo α size
  outstanding : List α

/-- A call, and what it leaves outstanding. -/
def step (state : Observed α size) : Call α → Observed α size
  | .write t => { fifo := (state.fifo.write t).2, outstanding := state.outstanding ++ [t] }
  | .read =>
    match state.fifo.read with
    | (some _, fifo) => { fifo, outstanding := state.outstanding.tail }
    | (none, fifo) => { fifo, outstanding := state.outstanding }

/-- A call leaves no more elements outstanding than the buffer has cells. -/
def Within (state : Observed α size) (call : Call α) : Prop := (step state call).outstanding.length ≤ size.value

instance (state : Observed α size) (call : Call α) : Decidable (Within state call) :=
  inferInstanceAs (Decidable (_ ≤ _))

/-- A read returns the first element that is outstanding, if there is one, and the elements are counted. -/
def Serves (state : Observed α size) (call : Call α) : Prop :=
  (call = .read → state.fifo.read.1 = state.outstanding.head?) ∧
    (step state call).fifo.used.toNat = (step state call).outstanding.length

/-- A call does not read from a full buffer. -/
def ReadsUnfilled (state : Observed α size) (call : Call α) : Prop :=
  call = .read → state.outstanding.length ≠ size.value

/-- The cells in front of the write index hold what is outstanding. -/
structure Represents (state : Observed α size) : Prop where
  /-- The elements stand around the ring, from the read index on. -/
  holds : Ring.Holds state.fifo.buffer state.fifo.read_ state.outstanding
  /-- The write index is behind them. -/
  behind : state.fifo.write_ = Ring.cell state.fifo.read_ state.outstanding.length
  /-- They are counted. -/
  counted : state.fifo.used.toNat = state.outstanding.length

/-- A new buffer represents the empty queue. -/
theorem represents_new (buffer : Fin size.value → α) :
    Represents { fifo := new size buffer, outstanding := [] } where
  holds := Ring.holds_nil _ _
  behind := (Ring.cell_zero _).symm
  counted := rfl

/-- A buffer looks empty where nothing is outstanding, and where all of its cells are. -/
theorem Represents.empty_iff {state : Observed α size} (represents : Represents state) :
    state.fifo.write_ = state.fifo.read_ ↔
      state.outstanding.length = 0 ∨ state.outstanding.length = size.value := by
  rw [represents.behind]
  exact Ring.cell_eq_start_iff _ represents.holds.room

/-- A write into a free cell leaves the queue with the element behind the others. -/
theorem Represents.write {state : Observed α size} (represents : Represents state) (t : α)
    (free : state.outstanding.length < size.value) : Represents (step state (.write t)) where
  -- The element goes to the cell behind the outstanding ones, which `write_` is.
  holds := by
    have stored := represents.holds.append free t
    rwa [← represents.behind] at stored
  behind := by
    show Ring.next state.fifo.write_ = Ring.cell state.fifo.read_ (state.outstanding ++ [t]).length
    rw [represents.behind, Ring.next_cell, List.length_append, List.length_singleton]
  -- There is room, so the counter does not wrap.
  counted := by
    have bounded := size.bounded
    show (state.fifo.used + 1).toNat = (state.outstanding ++ [t]).length
    rw [UInt32.toNat_add, represents.counted, List.length_append, List.length_singleton]
    exact Nat.mod_eq_of_lt (by
      show state.outstanding.length + 1 < 4294967296
      omega)

/-- A read from a buffer that looks empty returns false and changes nothing. -/
theorem Represents.read_idle {state : Observed α size} (represents : Represents state)
    (idle : state.outstanding.length = 0 ∨ state.outstanding.length = size.value) :
    state.fifo.read = (none, state.fifo) := by
  have equal := represents.empty_iff.mpr idle
  rw [Fifo.read, if_pos equal]

/-- A read from a buffer in between returns the first element, and leaves the queue of the others. -/
theorem Represents.read_first {state : Observed α size} (represents : Represents state) {first : α} {rest : List α}
    (contents : state.outstanding = first :: rest) (unfilled : state.outstanding.length < size.value) :
    state.fifo.read.1 = some first ∧ Represents (step state .read) := by
  -- The indices differ, so the cell at the read index is returned.
  have apart : state.fifo.write_ ≠ state.fifo.read_ := by
    rw [ne_eq, represents.empty_iff, contents, List.length_cons]
    rw [contents, List.length_cons] at unfilled
    omega
  have holds := represents.holds
  rw [contents] at holds
  obtain ⟨value, others⟩ := holds.tail
  have outcome : state.fifo.read = (some first,
      { state.fifo with read_ := Ring.next state.fifo.read_, used := state.fifo.used - 1 }) := by
    rw [Fifo.read, if_neg apart, value]
  have next : step state .read =
      { fifo := { state.fifo with read_ := Ring.next state.fifo.read_, used := state.fifo.used - 1 },
        outstanding := rest } := by
    simp only [step, outcome, contents, List.tail_cons]
  have counted := represents.counted
  rw [contents, List.length_cons] at counted
  refine ⟨by rw [outcome], ?_⟩
  rw [next]
  exact {
    holds := others
    behind := by
      show state.fifo.write_ = Ring.cell (Ring.next state.fifo.read_) rest.length
      rw [represents.behind, contents, Ring.cell_next, List.length_cons]
    counted := by
      show (state.fifo.used - 1).toNat = rest.length
      have positive : (1 : UInt32) ≤ state.fifo.used := by
        rw [UInt32.le_iff_toNat_le, counted]
        exact Nat.le_add_left 1 rest.length
      rw [UInt32.toNat_sub_of_le _ _ positive, counted]
      rfl }

/-- A read that returns false changes nothing. -/
theorem Represents.step_idle {state : Observed α size} (represents : Represents state)
    (idle : state.outstanding.length = 0 ∨ state.outstanding.length = size.value) : step state .read = state := by
  simp only [Fifo.step, represents.read_idle idle]

/-- A call leaves the queue represented, unless it reads from a full buffer. -/
theorem Represents.step {state : Observed α size} (represents : Represents state) {call : Call α}
    (within : Within state call) (unfilled : ReadsUnfilled state call) : Represents (step state call) := by
  -- A read from an empty buffer changes nothing.
  cases call with
  | write t =>
    have room : (state.outstanding ++ [t]).length ≤ size.value := within
    rw [List.length_append, List.length_singleton] at room
    exact represents.write t room
  | read =>
    cases contents : state.outstanding with
    | nil =>
      rw [represents.step_idle (.inl (by simp [contents]))]
      exact represents
    | cons first rest =>
      have full := unfilled rfl
      have room := represents.holds.room
      exact (represents.read_first contents (by omega)).2

/-- A call serves the queue it finds represented exactly if it does not read from a full buffer. -/
theorem Represents.serves_iff {state : Observed α size} (represents : Represents state) {call : Call α}
    (within : Within state call) : Serves state call ↔ ReadsUnfilled state call := by
  constructor
  · -- A full buffer looks empty, although there is a first element.
    intro serves read full
    subst read
    have answer := serves.1 rfl
    have positive := size.positive
    rw [represents.read_idle (.inr full)] at answer
    have empty : state.outstanding = [] := List.head?_eq_none_iff.mp answer.symm
    rw [empty, List.length_nil] at full
    omega
  · intro unfilled
    refine ⟨fun read => ?_, (represents.step within unfilled).counted⟩
    subst read
    cases contents : state.outstanding with
    | nil => rw [represents.read_idle (.inl (by simp [contents]))]; rfl
    | cons first rest =>
      have full := unfilled rfl
      have room := represents.holds.room
      exact (represents.read_first contents (by omega)).1

/-- The buffer is a queue over a run: whenever no more than its cells are outstanding, every call serves it. -/
def IsQueue (size : FifoSize) (buffer : Fin size.value → α) (calls : List (Call α)) : Prop :=
  Transition.Along step Within { fifo := new size buffer, outstanding := [] } calls →
    Transition.Along step Serves { fifo := new size buffer, outstanding := [] } calls

/-- Over such a run, no call reads from a full buffer. -/
def NeverReadsFull (size : FifoSize) (buffer : Fin size.value → α) (calls : List (Call α)) : Prop :=
  Transition.Along step Within { fifo := new size buffer, outstanding := [] } calls →
    Transition.Along step ReadsUnfilled { fifo := new size buffer, outstanding := [] } calls

/-- The buffer is a queue over exactly the runs that never read from it when it is full. -/
theorem isQueue_iff (size : FifoSize) (buffer : Fin size.value → α) (calls : List (Call α)) :
    IsQueue size buffer calls ↔ NeverReadsFull size buffer calls := by
  -- Both conditions keep the queue represented, and agree wherever it is.
  have agree : Transition.Along step (fun state call => Within state call ∧ Serves state call)
        { fifo := new size buffer, outstanding := [] } calls ↔
      Transition.Along step (fun state call => Within state call ∧ ReadsUnfilled state call)
        { fifo := new size buffer, outstanding := [] } calls := by
    refine Transition.along_congr Represents ?_ ?_ (represents_new buffer) calls
    · intro state call represents both
      exact represents.step both.1 ((represents.serves_iff both.1).mp both.2)
    · intro state call represents
      exact and_congr_right fun within => represents.serves_iff within
  rw [Transition.along_and, Transition.along_and] at agree
  unfold IsQueue NeverReadsFull
  constructor
  · intro serves within
    exact (agree.mp ⟨within, serves within⟩).2
  · intro unfilled within
    exact (agree.mpr ⟨within, unfilled within⟩).2

/-- The least size. -/
def oneCell : FifoSize where
  value := 1
  positive := by decide
  bounded := by decide

/-- An element that fills a buffer of one cell is not read. -/
theorem full_buffer_not_read : ¬ IsQueue oneCell (fun _ => 0) [.write 7, .read] := by
  intro queue
  exact absurd ((queue (by decide)).2.1.1 rfl) (by decide)

end Fifo

end Fms
