/-! Lenses: places of a state that are read and written, and updates that are run one after the other. -/

universe u v w

/-- A place of a state: what is written there is read back, and nothing else of the state changes. -/
structure Lens (σ : Type u) (α : Type v) where
  get : σ → α
  set : α → σ → σ
  get_set : ∀ (value : α) (state : σ), get (set value state) = value := by intros; rfl
  set_get : ∀ state : σ, set (get state) state = state := by intros; rfl
  set_set : ∀ (value other : α) (state : σ), set value (set other state) = set value state := by intros; rfl

namespace Lens

variable {σ : Type u} {α : Type v} {β : Type w}

/-- The update of one place by what it holds. -/
def modify (lens : Lens σ α) (update : α → α) (state : σ) : σ :=
  lens.set (update (lens.get state)) state

/-- A place inside of a place. -/
def comp (outer : Lens σ α) (inner : Lens α β) : Lens σ β where
  get state := inner.get (outer.get state)
  set value state := outer.set (inner.set value (outer.get state)) state
  get_set value state := by rw [outer.get_set, inner.get_set]
  set_get state := by rw [inner.set_get, outer.set_get]
  set_set value other state := by rw [outer.get_set, inner.set_set, outer.set_set]

/-- Two places that do not overlap: it does not matter which of them is written first. -/
def Apart (lens : Lens σ α) (other : Lens σ β) : Prop :=
  ∀ value change state, lens.set value (other.set change state) = other.set change (lens.set value state)

/-- A place is the same as itself, whatever type the other one is said to have. -/
inductive Same (lens : Lens σ α) : {β : Type v} → Lens σ β → Prop
  | refl : Same lens lens

/-- An updated place holds the updated value. -/
@[simp] theorem get_modify (lens : Lens σ α) (update : α → α) (state : σ) :
    lens.get (lens.modify update state) = update (lens.get state) :=
  lens.get_set _ _

/-- Two updates of one place are one update. -/
@[simp] theorem modify_modify (lens : Lens σ α) (later earlier : α → α) (state : σ) :
    lens.modify later (lens.modify earlier state) = lens.modify (fun value => later (earlier value)) state := by
  show lens.set (later (lens.get (lens.modify earlier state))) (lens.modify earlier state) = _
  rw [get_modify, modify, set_set]
  rfl

/-- An update that leaves the value of the place leaves the state. -/
theorem modify_eq_self (lens : Lens σ α) {update : α → α} {state : σ}
    (same : update (lens.get state) = lens.get state) : lens.modify update state = state := by
  rw [modify, same, set_get]

/-- What a place holds does not depend on a place apart from it. -/
theorem Apart.get_modify {lens : Lens σ α} {other : Lens σ β} (apart : lens.Apart other) (update : β → β)
    (state : σ) :
    lens.get (other.modify update state) = lens.get state := by
  -- Writing back what the place holds makes the order of the two writes visible.
  have back : lens.set (lens.get state) (other.modify update state) = other.modify update state := by
    rw [modify, apart, lens.set_get]
  rw [← back, lens.get_set]

/-- Places that are apart are so in both orders. -/
theorem Apart.symm {lens : Lens σ α} {other : Lens σ β} (apart : lens.Apart other) : other.Apart lens :=
  fun change value state => (apart value change state).symm

/-- Updates of places that are apart commute. -/
theorem Apart.modify_comm {lens : Lens σ α} {other : Lens σ β} (apart : lens.Apart other) (update : α → α)
    (change : β → β) (state : σ) :
    other.modify change (lens.modify update state) = lens.modify update (other.modify change state) := by
  -- Neither update sees what the other one writes.
  have here := apart.get_modify change state
  have there := apart.symm.get_modify update state
  rw [modify, there, modify, modify, here, modify]
  exact (apart (update (lens.get state)) (change (other.get state)) state).symm

/-- A place inside of one that is apart from another is apart from it as well. -/
theorem Apart.comp {γ : Type w} {lens : Lens σ α} {outer : Lens σ β} (apart : lens.Apart outer)
    (inner : Lens β γ) :
    lens.Apart (outer.comp inner) := by
  -- The outer place holds the same before and after the other one is written.
  intro value change state
  have here : outer.get (lens.set value state) = outer.get state := by
    have same := apart.symm.get_modify (fun _ => value) state
    exact same
  show lens.set value (outer.set (inner.set change (outer.get state)) state) =
    outer.set (inner.set change (outer.get (lens.set value state))) (lens.set value state)
  rw [here]
  exact apart value _ state

/-- An update that is run before another one: the two commute, or the later one leaves nothing of the earlier. -/
def Absorbs (later earlier : σ → σ) : Prop :=
  (∀ state, later (earlier state) = earlier (later state)) ∨ ∀ state, later (earlier state) = later state

variable {first second third : σ → σ}

/-- Two updates, each of which absorbs an earlier one, absorb it together. -/
theorem Absorbs.comp (inner : Absorbs second first) (outer : Absorbs third first) :
    Absorbs (fun state => third (second state)) first := by
  -- Once one of them has left nothing of the earlier update, the others do not see it.
  rcases inner with commutes | absorbed
  · rcases outer with passes | absorbed
    · refine .inl fun state => ?_
      show third (second (first state)) = first (third (second state))
      rw [commutes, passes]
    · refine .inr fun state => ?_
      show third (second (first state)) = third (second state)
      rw [commutes, absorbed]
  · exact .inr fun state => congrArg third (absorbed state)

/-- An update and one that absorbs it change nothing when they are run again, if neither does on its own. -/
theorem Absorbs.idempotent (absorbs : Absorbs second first) (once : ∀ state, first (first state) = first state)
    (again : ∀ state, second (second state) = second state) (state : σ) :
    second (first (second (first state))) = second (first state) := by
  rcases absorbs with commutes | absorbed
  · -- The second run of the earlier update moves in front of the first run of the later one.
    rw [← commutes (first state), again, once]
  · rw [absorbed, again]

end Lens
