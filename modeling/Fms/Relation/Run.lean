import Mathlib.Data.List.Nodup

/-! Runs of a transition function over a list of inputs, and what every state of a run satisfies. -/

universe u v w

namespace Transition

variable {σ : Type u} {ι : Type v}

/-- The states a run passes through, its first and its last included. -/
@[grind =]
def states (step : σ → ι → σ) (state : σ) : List ι → List σ
  | [] => [state]
  | input :: rest => state :: states step (step state input) rest

/-- A condition on the state before a step and its input holds at every step of a run. -/
@[grind =]
def Along (step : σ → ι → σ) (condition : σ → ι → Prop) (state : σ) : List ι → Prop
  | [] => True
  | input :: rest => condition state input ∧ Along step condition (step state input) rest

/-- A decidable condition can be checked along a run. -/
instance decidableAlong (step : σ → ι → σ) (condition : σ → ι → Prop)
    [decide_ : ∀ state input, Decidable (condition state input)] :
    ∀ (state : σ) (inputs : List ι), Decidable (Along step condition state inputs)
  | _, [] => isTrue trivial
  | state, input :: rest =>
    have : Decidable (Along step condition (step state input) rest) :=
      decidableAlong step condition (step state input) rest
    inferInstanceAs (Decidable (_ ∧ _))

/-- What the steps of a run put out, in order. -/
@[grind =]
def outputs {ω : Type w} (emit : σ → ι → Option ω) (step : σ → ι → σ) (state : σ) : List ι → List ω
  | [] => []
  | input :: rest => (emit state input).toList ++ outputs emit step (step state input) rest

variable {step : σ → ι → σ}

/-- A run starts in its first state. -/
theorem first_mem_states (state : σ) (inputs : List ι) : state ∈ states step state inputs := by
  cases inputs <;> simp [states]

/-- A run ends in its last state. -/
theorem last_mem_states (state : σ) (inputs : List ι) :
    inputs.foldl step state ∈ states step state inputs := by
  -- The last state of the rest is the last one of the run.
  induction inputs generalizing state with
  | nil => simp [states]
  | cons input rest ih => simp [states, ih]

/-- An invariant kept by every step that meets a condition holds in all states of such a run. -/
theorem invariant_along (invariant : σ → Prop) {condition : σ → ι → Prop}
    (kept : ∀ state input, invariant state → condition state input → invariant (step state input))
    {state : σ} (initial : invariant state) {inputs : List ι}
    (met : Along step condition state inputs) : ∀ reached ∈ states step state inputs, invariant reached := by
  -- The rest of the run starts after the first step, where the invariant has been kept.
  induction inputs generalizing state with
  | nil => simpa [states] using initial
  | cons input rest ih =>
    intro reached member
    rcases List.mem_cons.mp member with rfl | later
    · exact initial
    · exact ih (kept state input initial met.1) met.2 reached later

/-- Two conditions that agree wherever an invariant holds agree along every run that keeps it. -/
theorem along_congr (invariant : σ → Prop) {left right : σ → ι → Prop}
    (kept : ∀ state input, invariant state → left state input → invariant (step state input))
    (agree : ∀ state input, invariant state → (left state input ↔ right state input))
    {state : σ} (initial : invariant state) (inputs : List ι) :
    Along step left state inputs ↔ Along step right state inputs := by
  induction inputs generalizing state with
  | nil => rfl
  | cons input rest ih =>
    -- The invariant reaches the rest of the run only through a step that meets the first condition.
    have first := agree state input initial
    constructor
    · intro along
      exact ⟨first.mp along.1, (ih (kept state input initial along.1)).mp along.2⟩
    · intro along
      have met := first.mpr along.1
      exact ⟨met, (ih (kept state input initial met)).mpr along.2⟩

/--
A property holds in every state of a run exactly when every step meets a condition.

The condition has to be exact for one step, given the property and a background invariant before it.
The run may be known to meet assumptions that are no part of the condition.
-/
theorem property_iff_along (property invariant : σ → Prop) {assumed condition : σ → ι → Prop}
    (kept : ∀ state input, invariant state → property state → assumed state input →
      condition state input → invariant (step state input))
    (exact_ : ∀ state input, invariant state → property state → assumed state input →
      (property (step state input) ↔ condition state input))
    {state : σ} (initial : invariant state) (start : property state) {inputs : List ι}
    (assumptions : Along step assumed state inputs) :
    (∀ reached ∈ states step state inputs, property reached) ↔
      Along step condition state inputs := by
  -- The first step is settled by the one-step fact, and the rest of the run starts after it.
  induction inputs generalizing state with
  | nil => simpa [states, Along] using start
  | cons input rest ih =>
    have one := exact_ state input initial start assumptions.1
    constructor
    · intro all
      have next : property (step state input) :=
        all _ (List.mem_cons_of_mem _ (first_mem_states _ rest))
      have met := one.mp next
      have invariant_ := kept state input initial start assumptions.1 met
      exact ⟨met, (ih invariant_ next assumptions.2).mp
        fun reached member => all reached (List.mem_cons_of_mem _ member)⟩
    · intro along reached member
      obtain ⟨met, later⟩ := along
      have invariant_ := kept state input initial start assumptions.1 met
      rcases List.mem_cons.mp member with rfl | member
      · exact start
      · exact (ih invariant_ (one.mpr met) assumptions.2).mpr later reached member

/-- A condition on the inputs alone holds along every run over such inputs. -/
theorem along_of_forall (step : σ → ι → σ) {condition : ι → Prop} {inputs : List ι}
    (all : ∀ input ∈ inputs, condition input) (state : σ) :
    Along step (fun _ input => condition input) state inputs := by
  -- The states do not matter, so the induction is on the inputs.
  induction inputs generalizing state with
  | nil => trivial
  | cons input rest ih =>
    exact ⟨all input (by simp), ih (fun other member => all other (by simp [member])) _⟩

/-- What every step meets holds along every run. -/
theorem along_true (step : σ → ι → σ) (state : σ) (inputs : List ι) :
    Along step (fun _ _ => True) state inputs :=
  along_of_forall step (fun _ _ => trivial) state

/-- A condition that another one implies holds along every run that meets the other. -/
theorem along_mono {left right : σ → ι → Prop}
    (implies : ∀ state input, left state input → right state input) {state : σ} {inputs : List ι}
    (along : Along step left state inputs) : Along step right state inputs := by
  -- Step by step, in whatever states the run passes through.
  induction inputs generalizing state with
  | nil => trivial
  | cons input rest ih => exact ⟨implies state input along.1, ih along.2⟩

/-- A condition on the inputs alone holds along a run exactly when all inputs meet it. -/
theorem along_inputs_iff {condition : ι → Prop} {inputs : List ι} {state : σ} :
    Along step (fun _ input => condition input) state inputs ↔ ∀ input ∈ inputs, condition input := by
  constructor
  · -- Every input is the first one of some part of the run.
    intro along
    induction inputs generalizing state with
    | nil => simp
    | cons input rest ih =>
      intro other member
      rcases List.mem_cons.mp member with rfl | later
      · exact along.1
      · exact ih along.2 other later
  · intro all
    exact along_of_forall step all state

/-- A condition holds along a longer run exactly when it holds along both parts of it. -/
theorem along_append {condition : σ → ι → Prop} {state : σ} {front back : List ι} :
    Along step condition state (front ++ back) ↔
      Along step condition state front ∧ Along step condition (front.foldl step state) back := by
  -- The second part starts where the first one has ended.
  induction front generalizing state with
  | nil => simp [Along]
  | cons input rest ih => simp only [List.cons_append, Along, List.foldl_cons, ih, and_assoc]

/-- What holds in every state of a run holds before every step. -/
theorem along_of_states {property : σ → Prop} {state : σ} {inputs : List ι}
    (all : ∀ reached ∈ states step state inputs, property reached) :
    Along step (fun state _ => property state) state inputs := by
  -- A step starts in a state of the run.
  induction inputs generalizing state with
  | nil => trivial
  | cons input rest ih =>
    have later : ∀ reached ∈ states step (step state input) rest, property reached :=
      fun reached member => all reached (List.mem_cons_of_mem _ member)
    exact ⟨all state (first_mem_states state _), ih later⟩

/-- Two conditions hold along a run exactly when both do at every step. -/
theorem along_and {left right : σ → ι → Prop} {state : σ} {inputs : List ι} :
    Along step (fun state input => left state input ∧ right state input) state inputs ↔
      Along step left state inputs ∧ Along step right state inputs := by
  -- The two conditions are met at the same steps.
  induction inputs generalizing state with
  | nil => simp [Along]
  | cons input rest ih =>
    simp only [Along, ih]
    constructor
    · intro both
      exact ⟨⟨both.1.1, both.2.1⟩, both.1.2, both.2.2⟩
    · intro both
      exact ⟨⟨both.1.1, both.2.1⟩, both.1.2, both.2.2⟩

/-- All outputs of a run have a property exactly when the output of every step has it. -/
theorem forall_outputs_iff {ω : Type w} {emit : σ → ι → Option ω} {property : ω → Prop} {state : σ}
    {inputs : List ι} :
    (∀ output ∈ outputs emit step state inputs, property output) ↔
      Along step (fun state input => ∀ output ∈ emit state input, property output) state inputs := by
  -- The outputs of the rest come after that of the first step.
  induction inputs generalizing state with
  | nil => simp [outputs, Along]
  | cons input rest ih =>
    simp only [outputs, List.mem_append, Option.mem_toList, or_imp, forall_and, ih, Along,
      Option.mem_def]

/--
What is put out for some inputs depends on these inputs alone.

The other inputs put out nothing and leave what the chosen ones read as it is.
-/
theorem outputs_view {ν : Type*} {ω : Type w} {emit : σ → ι → Option ω} (mine : ι → Prop) [DecidablePred mine]
    (view : σ → ν) {emitView : ν → ι → Option ω} {stepView : ν → ι → ν} {inputs : List ι}
    (own : ∀ state, ∀ input ∈ inputs, mine input →
      emit state input = emitView (view state) input ∧ view (step state input) = stepView (view state) input)
    (others : ∀ state, ∀ input ∈ inputs, ¬ mine input →
      emit state input = none ∧ view (step state input) = view state) (state : σ) :
    outputs emit step state inputs =
      outputs emitView stepView (view state) (inputs.filter fun input => decide (mine input)) := by
  -- Each input either takes the same step on what is read, or is not there for it.
  induction inputs generalizing state with
  | nil => rfl
  | cons input rest ih =>
    have later := ih (fun state other member => own state other (List.mem_cons_of_mem _ member))
      (fun state other member => others state other (List.mem_cons_of_mem _ member)) (step state input)
    by_cases chosen : mine input
    · obtain ⟨emitted, stepped⟩ := own state input List.mem_cons_self chosen
      rw [outputs, List.filter_cons_of_pos (by simpa using chosen), outputs, later, emitted, stepped]
    · obtain ⟨emitted, stepped⟩ := others state input List.mem_cons_self chosen
      rw [outputs, List.filter_cons_of_neg (by simpa using chosen), later, emitted, stepped, Option.toList_none,
        List.nil_append]

/-- A queue that every step appends its output to holds the outputs of the run at its end. -/
theorem queue_foldl {ω : Type w} {emit : σ → ι → Option ω} (queue : σ → List ω)
    {condition : σ → ι → Prop}
    (appends : ∀ state input, condition state input →
      queue (step state input) = queue state ++ (emit state input).toList)
    {state : σ} {inputs : List ι} (met : Along step condition state inputs) :
    queue (inputs.foldl step state) = queue state ++ outputs emit step state inputs := by
  -- The rest of the run appends to what the first step has left.
  induction inputs generalizing state with
  | nil => rw [List.foldl_nil, outputs, List.append_nil]
  | cons input rest ih =>
    rw [List.foldl_cons, ih met.2, appends state input met.1, outputs, List.append_assoc]

/-- What only a state with the same property can lead to holds throughout once it holds at the end. -/
theorem forall_states_iff_last (property : σ → Prop)
    (earlier : ∀ state input, property (step state input) → property state)
    {state : σ} {inputs : List ι} :
    (∀ reached ∈ states step state inputs, property reached) ↔
      property (inputs.foldl step state) := by
  constructor
  · intro all
    -- The last state is one of the states.
    exact all _ (last_mem_states state inputs)
  · -- The property travels back from the last state, one step at a time.
    intro last
    induction inputs generalizing state with
    | nil => simpa [states] using last
    | cons input rest ih =>
      have later := ih last
      intro reached member
      rcases List.mem_cons.mp member with rfl | member
      · exact earlier _ input (later _ (first_mem_states _ rest))
      · exact later reached member

/--
What is read of the state at the end depends on the inputs that concern it alone.

The others leave it as it is, wherever the condition of the run is met.
-/
theorem foldl_view {ν : Type*} (mine : ι → Prop) [DecidablePred mine] (view : σ → ν) (stepView : ν → ι → ν)
    {condition : σ → ι → Prop}
    (own : ∀ state input, condition state input → mine input →
      view (step state input) = stepView (view state) input)
    (others : ∀ state input, condition state input → ¬ mine input → view (step state input) = view state)
    {state : σ} {inputs : List ι} (met : Along step condition state inputs) :
    view (inputs.foldl step state) =
      (inputs.filter fun input => decide (mine input)).foldl stepView (view state) := by
  -- Each input either takes the same step on what is read, or is not there for it.
  induction inputs generalizing state with
  | nil => rfl
  | cons input rest ih =>
    by_cases chosen : mine input
    · rw [List.filter_cons_of_pos (by simpa using chosen), List.foldl_cons, List.foldl_cons, ih met.2,
        own state input met.1 chosen]
    · rw [List.filter_cons_of_neg (by simpa using chosen), List.foldl_cons, ih met.2,
        others state input met.1 chosen]

/-- What relates a state to the inputs so far, and is kept by every step, relates the last state to all of them. -/
theorem foldl_related (step : σ → ι → σ) (relation : List ι → σ → Prop) {state : σ} (related : relation [] state)
    (kept : ∀ inputs state input, relation inputs state → relation (inputs ++ [input]) (step state input))
    (inputs : List ι) : relation inputs (inputs.foldl step state) := by
  -- The first step moves its input to those before.
  have onwards : ∀ before state, relation before state → relation (before ++ inputs) (inputs.foldl step state) := by
    induction inputs with
    | nil => exact fun before state related => by simpa using related
    | cons input rest ih =>
      exact fun before state related => by simpa using ih _ _ (kept before state input related)
  exact onwards [] state related

end Transition
