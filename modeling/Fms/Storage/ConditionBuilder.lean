import Fms.Relation.Brackets

/-! `OP` of several conditions: the overloads that join them with operators. -/

namespace Fms

namespace Orm

/-- `SqlBinaryOp`. -/
inductive SqlBinaryOp where
  | and | or
  deriving DecidableEq, Repr

/-- `BOPS`. -/
def SqlBinaryOp.text : SqlBinaryOp → String
  | .and => " and "
  | .or => " or "

/-- The overloads of `OP` that begin with a flag, which none of them reads. -/
def opMore (paranOpen : Bool) (P1 : String) (BOP : SqlBinaryOp) (P2 : String) :
    List (SqlBinaryOp × String) → String
  | [] => P1 ++ BOP.text ++ P2 ++ ")"
  | (next, P3) :: more => P1 ++ BOP.text ++ opMore paranOpen P2 next P3 more ++ ")"

/-- `OP(P1, BOP, P2, ...)`: one overload for two conditions, and one for more. -/
def opAll (P1 : String) (BOP : SqlBinaryOp) (P2 : String) : List (SqlBinaryOp × String) → String
  | [] => "(" ++ P1 ++ BOP.text ++ P2 ++ ")"
  | (next, P3) :: more => "(" ++ P1 ++ BOP.text ++ opMore true P2 next P3 more

open Brackets

/-- The conditions in order, separated by their operators. -/
def spelled (P1 : String) (others : List (SqlBinaryOp × String)) : List Char :=
  P1.toList ++ others.flatMap fun other => other.1.text.toList ++ other.2.toList

/-- A text with its parentheses balanced. -/
def Parenthesised (P : String) : Prop := Balanced paren P.toList

instance (P : String) : Decidable (Parenthesised P) := inferInstanceAs (Decidable (Balanced _ _))

/-- What is built is balanced, in parentheses as a whole, and otherwise the conditions with their operators. -/
def WellBuilt (P1 : String) (BOP : SqlBinaryOp) (P2 : String) (more : List (SqlBinaryOp × String)) : Prop :=
  Parenthesised (opAll P1 BOP P2 more) ∧ Enclosed paren (opAll P1 BOP P2 more).toList ∧
    PutIn paren (spelled P1 ((BOP, P2) :: more)) (opAll P1 BOP P2 more).toList

/-- Behind the first condition, every further one adds a parenthesis at the end. -/
theorem toList_opMore (paranOpen : Bool) (P1 : String) (BOP : SqlBinaryOp) (P2 : String)
    (more : List (SqlBinaryOp × String)) :
    (opMore paranOpen P1 BOP P2 more).toList =
      spelled P1 ((BOP, P2) :: more) ++ List.replicate (more.length + 1) ')' := by
  -- By the conditions, each of which becomes the first of the rest.
  induction more generalizing P1 BOP P2 with
  | nil => simp [opMore, spelled]
  | cons other more ih =>
    obtain ⟨next, P3⟩ := other
    simp [opMore, ih, spelled, List.replicate_succ']

/-- One parenthesis is opened, and for more than two conditions one is closed for each behind the second. -/
theorem toList_opAll (P1 : String) (BOP : SqlBinaryOp) (P2 : String) (more : List (SqlBinaryOp × String)) :
    (opAll P1 BOP P2 more).toList =
      '(' :: (spelled P1 ((BOP, P2) :: more) ++ List.replicate (max 1 more.length) ')') := by
  -- Without further conditions there is one parenthesis at the end, and otherwise one for each.
  cases more with
  | nil => simp [opAll, spelled]
  | cons other more =>
    obtain ⟨next, P3⟩ := other
    simp [opAll, toList_opMore, spelled]

/-- The operators have no parentheses. -/
theorem balanced_operator (BOP : SqlBinaryOp) : Balanced paren BOP.text.toList := by
  cases BOP <;> decide

/-- Balanced conditions with operators between them are balanced. -/
theorem balanced_spelled {P1 : String} (first : Parenthesised P1) {others : List (SqlBinaryOp × String)}
    (all : ∀ other ∈ others, Parenthesised other.2) : Balanced paren (spelled P1 others) := by
  -- By the further conditions, each behind its operator.
  refine first.append ?_
  induction others with
  | nil => exact balanced_nil
  | cons other others ih =>
    rw [List.flatMap_cons]
    refine ((balanced_operator other.1).append (all other List.mem_cons_self)).append (ih fun next member => ?_)
    exact all next (List.mem_cons_of_mem other member)

/-- Only parentheses are put in. -/
theorem putIn_opAll (P1 : String) (BOP : SqlBinaryOp) (P2 : String) (more : List (SqlBinaryOp × String)) :
    PutIn paren (spelled P1 ((BOP, P2) :: more)) (opAll P1 BOP P2 more).toList := by
  -- One stands in front of the conditions, and the others behind them.
  rw [toList_opAll]
  refine .add (by decide) ?_
  have behind : PutIn paren [] (List.replicate (max 1 more.length) ')') :=
    PutIn.of_brackets fun symbol member => by
      rw [List.eq_of_mem_replicate member]
      decide
  have kept : PutIn paren (spelled P1 ((BOP, P2) :: more)) (spelled P1 ((BOP, P2) :: more)) := PutIn.refl _
  simpa using kept.append behind

/--
What is built out of balanced conditions is well built exactly for two or three of them.

From the fourth condition on, more parentheses are closed than opened.
-/
theorem wellBuilt_iff (P1 : String) (BOP : SqlBinaryOp) (P2 : String) (more : List (SqlBinaryOp × String))
    (first : Parenthesised P1) (all : ∀ other ∈ (BOP, P2) :: more, Parenthesised other.2) :
    WellBuilt P1 BOP P2 more ↔ more.length + 2 ≤ 3 := by
  -- What is in front of the last parentheses is balanced in any case.
  have inner := balanced_spelled first all
  have text := toList_opAll P1 BOP P2 more
  constructor
  · -- With four conditions or more, the second parenthesis at the end closes nothing.
    rintro ⟨balanced, -, -⟩
    by_contra large
    obtain ⟨count, lengths⟩ : ∃ count, max 1 more.length = count + 2 := ⟨more.length - 2, by omega⟩
    have enclosed : Balanced paren ('(' :: (spelled P1 ((BOP, P2) :: more) ++ [')'])) :=
      Enclosed.balanced ⟨'(', _, ')', rfl, by decide, by decide, inner⟩
    have extra : (opAll P1 BOP P2 more).toList =
        ('(' :: (spelled P1 ((BOP, P2) :: more) ++ [')'])) ++ ')' :: List.replicate count ')' := by
      rw [text, lengths, List.replicate_succ, List.replicate_succ]
      simp
    rw [Parenthesised, extra] at balanced
    exact not_balanced_of_closing enclosed (by decide) balanced
  · intro small
    have one : max 1 more.length = 1 := by omega
    have enclosed : Enclosed paren (opAll P1 BOP P2 more).toList :=
      ⟨'(', _, ')', by rw [text, one]; rfl, by decide, by decide, inner⟩
    exact ⟨enclosed.balanced, enclosed, putIn_opAll P1 BOP P2 more⟩

/-- Three conditions, of which one has parentheses of its own. -/
theorem wellBuilt_iff_three :
    WellBuilt "(a=1)" .and "b=2" [(.or, "c=3")] ↔ [(SqlBinaryOp.or, "c=3")].length + 2 ≤ 3 :=
  wellBuilt_iff "(a=1)" .and "b=2" [(.or, "c=3")] (by decide) (by decide)

/-- Four conditions are closed once too often. -/
theorem not_wellBuilt_four : ¬ WellBuilt "(a=1)" .and "(b=2)" [(.and, "(c=3)"), (.and, "(d=4)")] := by
  rintro ⟨balanced, -, -⟩
  exact absurd balanced (by decide)

end Orm

end Fms
