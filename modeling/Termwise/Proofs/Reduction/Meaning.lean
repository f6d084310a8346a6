import Mathlib.Algebra.Order.Field.Rat
import Mathlib.Data.Int.Cast.Field
import Mathlib.Data.Int.CharZero
import Termwise.Proofs.Reduction.Node
import Termwise.Proofs.Tree.Outcome

/-
  Reduction keeps the meaning of a tree: under every
  assignment the reduced tree and the tree itself have the
  same outcome.

  Main declarations:
    * `Tree.outcome_substitute_join`
    * `Tree.outcome_substitute_negated`
    * `Tree.outcome_substitute_reduce`
    * `Tree.outcome_reduce`
    * `Tree.meaning_reduce`
-/

namespace Termwise

------------------------------------------------------------
-- Exact Arithmetic
------------------------------------------------------------

/- An integer result is the value of the operation. -/
theorem Op.apply_of_exact?
    {op : Op}
    {a b n : Int}
    (h : op.exact? a b = some n) :
    op.apply a b = .value n := by
  cases op with
  | add =>
      cases h
      rw [apply, Int.cast_add]
  | sub =>
      cases h
      rw [apply, Int.cast_sub]
  | mul =>
      cases h
      rw [apply, Int.cast_mul]
  | div =>
      change (if b ≠ 0 ∧ a % b = 0 then some (a / b)
        else none) = some n at h
      by_cases hExact : b ≠ 0 ∧ a % b = 0
      · rw [if_pos hExact] at h
        cases h
        have hZero : (b : Rat) ≠ 0 :=
          Int.cast_ne_zero.mpr hExact.1
        rw [apply, if_neg hZero,
          Int.cast_div (Int.dvd_of_emod_eq_zero hExact.2) hZero]
      · rw [if_neg hExact] at h
        cases h

namespace Tree

------------------------------------------------------------
-- Meaning at a Node
------------------------------------------------------------

/-
  Joining two trees gives what their operation gives, under
  every assignment: if they are collapsed they are integers,
  which no assignment changes.
-/
theorem outcome_substitute_join
    (op : Op)
    (l r : Tree)
    (value? : String → Option Int) :
    ((join op l r).substitute value?).outcome =
      op.combine (l.substitute value?).outcome
        (r.substitute value?).outcome := by
  rcases join_cases op l r with
    hJoin | ⟨a, b, n, hLeft, hRight, hExact, hJoin⟩
  · rw [hJoin]
    rfl
  · have hResult := integer?_ofInt n
    rw [hJoin, substitute_of_integer? hResult,
      substitute_of_integer? hLeft,
      substitute_of_integer? hRight,
      outcome_of_integer? hResult,
      outcome_of_integer? hLeft,
      outcome_of_integer? hRight]
    exact (Op.apply_of_exact? hExact).symm

/- Negating a tree negates what becomes of it. -/
theorem outcome_substitute_negated
    (t : Tree)
    (value? : String → Option Int) :
    (t.negated.substitute value?).outcome =
      (t.substitute value?).outcome.negate := by
  rcases negated_cases t with hNegated | ⟨u, rfl, hNegated⟩
  · rw [hNegated]
    rfl
  · rw [hNegated]
    exact (Outcome.negate_negate _).symm

------------------------------------------------------------
-- Meaning of Trees
------------------------------------------------------------

/-
  Under every assignment a reduced tree has the outcome of
  the tree itself.
-/
theorem outcome_substitute_reduce
    (t : Tree)
    (value? : String → Option Int) :
    (t.reduce.substitute value?).outcome =
      (t.substitute value?).outcome := by
  induction t with
  | num n => rfl
  | var x => rfl
  | neg t ih =>
      rw [reduce, outcome_substitute_negated, ih]
      rfl
  | bin op l r ihLeft ihRight =>
      rw [reduce, outcome_substitute_join, ihLeft, ihRight]
      rfl

/- Without an assignment it has that outcome, too. -/
theorem outcome_reduce (t : Tree) :
    t.reduce.outcome = t.outcome := by
  have hReduce := outcome_substitute_reduce t fun _ => none
  rw [substitute_none, substitute_none] at hReduce
  exact hReduce

/-
  Reduction keeps the meaning of a tree.  Under an assignment
  of integers to whatever names, the reduced tree has just
  the value that the tree has, is undefined just if the tree
  is, and is stopped just by the variable that stops it.
-/
theorem meaning_reduce
    (t : Tree)
    (value? : String → Option Int) :
    (∀ q,
      (t.reduce.substitute value?).outcome = .value q ↔
        (t.substitute value?).outcome = .value q) ∧
    ((t.reduce.substitute value?).outcome = .undefined ↔
      (t.substitute value?).outcome = .undefined) ∧
    ∀ x,
      (t.reduce.substitute value?).outcome = .unbound x ↔
        (t.substitute value?).outcome = .unbound x := by
  have hSame := outcome_substitute_reduce t value?
  refine ⟨?_, ?_, ?_⟩
  · intro q
    rw [hSame]
  · rw [hSame]
  · intro x
    rw [hSame]

end Tree

end Termwise
