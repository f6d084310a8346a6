import Mathlib.Data.Int.CharZero
import Mathlib.Data.Rat.Cast.Defs
import Termwise.Tree.Variables
import Termwise.Value

/-
  Laws of outcomes.  A tree is stopped by a variable only if
  one of its variables has no value.

  Main declarations:
    * `Outcome.negate_negate`
    * `Outcome.negate_ne_unbound`
    * `Op.combine_ne_unbound`
    * `Tree.outcome_of_integer?`
    * `Tree.outcome_ofInt`
    * `Tree.outcome_substitute_ne_unbound`
-/

namespace Termwise

------------------------------------------------------------
-- Operations on Outcomes
------------------------------------------------------------

/- Two negations of an outcome cancel. -/
theorem Outcome.negate_negate (o : Outcome) :
    o.negate.negate = o := by
  cases o with
  | unbound x => rfl
  | undefined => rfl
  | value q => rw [negate, negate, neg_neg]

/- A negation is stopped by no variable of its own. -/
theorem Outcome.negate_ne_unbound
    {o : Outcome}
    {x : String}
    (h : o ≠ .unbound x) :
    o.negate ≠ .unbound x := by
  cases o with
  | unbound y => exact h
  | undefined => exact h
  | value q =>
      intro hNegate
      cases hNegate

/- An operation on two values is not stopped. -/
theorem Op.apply_ne_unbound
    (op : Op)
    (a b : Rat)
    (x : String) :
    op.apply a b ≠ .unbound x := by
  intro hApply
  cases op with
  | add | sub | mul => cases hApply
  | div =>
      rw [apply] at hApply
      split at hApply
      · cases hApply
      · cases hApply

/- An operation is stopped by no variable of its own. -/
theorem Op.combine_ne_unbound
    (op : Op)
    {o p : Outcome}
    {x : String}
    (hLeft : o ≠ .unbound x)
    (hRight : p ≠ .unbound x) :
    op.combine o p ≠ .unbound x := by
  intro hCombine
  cases o with
  | unbound y => exact hLeft hCombine
  | undefined =>
      cases p with
      | unbound y => exact hRight hCombine
      | undefined | value => cases hCombine
  | value a =>
      cases p with
      | unbound y => exact hRight hCombine
      | undefined => cases hCombine
      | value b => exact op.apply_ne_unbound a b x hCombine

------------------------------------------------------------
-- Outcomes of Trees
------------------------------------------------------------

namespace Tree

/- A tree that stands for an integer has it as its value. -/
theorem outcome_of_integer?
    {t : Tree}
    {n : Int}
    (h : t.integer? = some n) :
    t.outcome = .value n := by
  rcases integer?_cases h with ⟨m, rfl, rfl⟩ | ⟨m, rfl, rfl⟩
  · rw [outcome, Int.cast_natCast]
  · rw [outcome, outcome, Outcome.negate, Int.cast_neg,
      Int.cast_natCast]

/- The tree of an integer has that integer as its value. -/
theorem outcome_ofInt (n : Int) :
    (ofInt n).outcome = .value n :=
  outcome_of_integer? (integer?_ofInt n)

/- With a value for each of its variables nothing stops it. -/
theorem outcome_substitute_ne_unbound
    {t : Tree}
    {value? : String → Option Int}
    (h : ∀ y ∈ t.names, (value? y).isSome)
    (x : String) :
    (t.substitute value?).outcome ≠ .unbound x := by
  induction t with
  | num n =>
      intro hOutcome
      cases hOutcome
  | var y =>
      rcases Option.isSome_iff_exists.mp
          (h y (List.mem_singleton_self y)) with
        ⟨n, hValue⟩
      rw [substitute, hValue]
      intro hOutcome
      rw [outcome_ofInt] at hOutcome
      cases hOutcome
  | neg t ih => exact Outcome.negate_ne_unbound (ih h)
  | bin op l r ihLeft ihRight =>
      refine Op.combine_ne_unbound op (ihLeft ?_) (ihRight ?_)
      · intro y hMem
        exact h y (List.mem_append_left _ hMem)
      · intro y hMem
        exact h y (List.mem_append_right _ hMem)

end Tree

end Termwise
