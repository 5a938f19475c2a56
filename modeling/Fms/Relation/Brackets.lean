import Mathlib.Data.List.Basic

/-! Brackets in a text: how deep they are nested, and when they are balanced. -/

namespace Brackets

universe u

/-- What a symbol does to the nesting. -/
inductive Kind where
  | opening | closing | other
  deriving DecidableEq, Repr

variable {α : Type u} (kind : α → Kind)

/-- The depth behind a text that begins at some depth; none where a bracket closes what is not open. -/
@[grind =]
def depth : Nat → List α → Option Nat
  | open_, [] => some open_
  | open_, symbol :: rest =>
    match kind symbol, open_ with
    | .opening, open_ => depth (open_ + 1) rest
    | .closing, 0 => none
    | .closing, open_ + 1 => depth open_ rest
    | .other, open_ => depth open_ rest

/-- Every bracket is closed, and none is closed that is not open. -/
def Balanced (text : List α) : Prop := depth kind 0 text = some 0

instance (text : List α) : Decidable (Balanced kind text) := inferInstanceAs (Decidable (_ = _))

/-- The last symbol closes the bracket that the first one opens. -/
def Enclosed (text : List α) : Prop :=
  ∃ first inner last, text = first :: (inner ++ [last]) ∧ kind first = .opening ∧ kind last = .closing ∧
    Balanced kind inner

/-- A text comes from another by putting brackets in. -/
inductive PutIn : List α → List α → Prop
  | nil : PutIn [] []
  | keep (symbol : α) {text bracketed : List α} : PutIn text bracketed →
    PutIn (symbol :: text) (symbol :: bracketed)
  | add {symbol : α} {text bracketed : List α} : kind symbol ≠ .other → PutIn text bracketed →
    PutIn text (symbol :: bracketed)

variable {kind}

/-- A text is read in two parts, the second from the depth behind the first. -/
theorem depth_append (open_ : Nat) (front back : List α) :
    depth kind open_ (front ++ back) = (depth kind open_ front).bind fun open_ => depth kind open_ back := by
  -- The depth changes with every symbol, so it stays quantified over.
  induction front generalizing open_ with
  | nil => rfl
  | cons symbol rest ih =>
    cases nested : kind symbol with
    | opening => simp [depth, nested, ih]
    | other => simp [depth, nested, ih]
    | closing =>
      cases open_ with
      | zero => simp [depth, nested]
      | succ open_ => simp [depth, nested, ih]

/-- Brackets around a text do not matter to what goes on in it. -/
theorem depth_add {open_ final : Nat} {text : List α} (read : depth kind open_ text = some final) (outer : Nat) :
    depth kind (open_ + outer) text = some (final + outer) := by
  induction text generalizing open_ with
  | nil =>
    obtain rfl : open_ = final := by simpa [depth] using read
    rfl
  | cons symbol rest ih =>
    cases nested : kind symbol with
    | opening =>
      simp only [depth, nested] at read ⊢
      rw [Nat.add_right_comm]
      exact ih read
    | other =>
      simp only [depth, nested] at read ⊢
      exact ih read
    | closing =>
      -- A bracket that was closed in the text is closed in the longer one.
      cases open_ with
      | zero => simp [depth, nested] at read
      | succ open_ =>
        simp only [depth, nested, Nat.add_right_comm open_ 1 outer] at read ⊢
        exact ih read

/-- A balanced text leaves the depth as it is. -/
theorem Balanced.depth_eq {text : List α} (balanced : Balanced kind text) (open_ : Nat) :
    depth kind open_ text = some open_ := by
  simpa using depth_add balanced open_

/-- A balanced front does not matter to the depth behind it. -/
theorem Balanced.depth_append {front : List α} (balanced : Balanced kind front) (open_ : Nat) (back : List α) :
    depth kind open_ (front ++ back) = depth kind open_ back := by
  rw [Brackets.depth_append, balanced.depth_eq, Option.bind_some]

/-- Nothing is balanced. -/
theorem balanced_nil : Balanced kind [] := rfl

/-- Balanced texts are joined to a balanced text. -/
theorem Balanced.append {front back : List α} (first : Balanced kind front) (second : Balanced kind back) :
    Balanced kind (front ++ back) := by
  rw [Balanced, first.depth_append]
  exact second

/-- Balanced texts in a row are balanced. -/
theorem balanced_flatten {texts : List (List α)} (all : ∀ text ∈ texts, Balanced kind text) :
    Balanced kind texts.flatten := by
  -- By the texts, of which each leaves the depth as it is.
  induction texts with
  | nil => rfl
  | cons text rest ih =>
    rw [List.flatten_cons]
    exact (all text List.mem_cons_self).append (ih fun other member =>
      all other (List.mem_cons_of_mem text member))

/-- A text without brackets is balanced. -/
theorem balanced_of_other {text : List α} (plain : ∀ symbol ∈ text, kind symbol = .other) :
    Balanced kind text := by
  -- The depth stays zero at every symbol.
  unfold Balanced
  induction text with
  | nil => rfl
  | cons symbol rest ih =>
    simp only [depth, plain symbol List.mem_cons_self]
    exact ih fun other member => plain other (List.mem_cons_of_mem symbol member)

/-- An enclosed text is balanced. -/
theorem Enclosed.balanced {text : List α} (enclosed : Enclosed kind text) : Balanced kind text := by
  obtain ⟨first, inner, last, rfl, opens, closes, balanced⟩ := enclosed
  simp [Balanced, depth, opens, closes, balanced.depth_append]

/-- A balanced text with one more closing bracket is not balanced, whatever follows. -/
theorem not_balanced_of_closing {front back : List α} {symbol : α} (balanced : Balanced kind front)
    (closes : kind symbol = .closing) : ¬ Balanced kind (front ++ symbol :: back) := by
  simp [Balanced, balanced.depth_append, depth, closes]

/-- Any text comes from itself. -/
theorem PutIn.refl (text : List α) : PutIn kind text text := by
  induction text with
  | nil => exact .nil
  | cons symbol rest ih => exact .keep symbol ih

/-- Brackets are put into texts that are joined by putting them into each. -/
theorem PutIn.append {front back front' back' : List α} (first : PutIn kind front front')
    (second : PutIn kind back back') : PutIn kind (front ++ back) (front' ++ back') := by
  -- By the brackets that are put into the first text.
  induction first with
  | nil => exact second
  | keep symbol _ ih => exact .keep symbol ih
  | add bracket _ ih => exact .add bracket ih

/-- A text of brackets comes from nothing. -/
theorem PutIn.of_brackets {text : List α} (all : ∀ symbol ∈ text, kind symbol ≠ .other) : PutIn kind [] text := by
  induction text with
  | nil => exact .nil
  | cons symbol rest ih =>
    exact .add (all symbol List.mem_cons_self) (ih fun other member =>
      all other (List.mem_cons_of_mem symbol member))

/-- The kinds of the parentheses. -/
def paren (c : Char) : Kind := if c = '(' then .opening else if c = ')' then .closing else .other

end Brackets
