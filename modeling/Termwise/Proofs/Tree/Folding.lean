import Mathlib.Algebra.Order.Field.Rat
import Termwise.Proofs.Tree.Outcome
import Termwise.Proofs.Tree.Parts

/-
  Which outcome a tree has.  A variable stops it, the first
  one in reading order, even beside a division by zero.
  Without variables a division by zero anywhere in the tree
  leaves it undefined, and otherwise its value is what the
  field of the rationals makes of it.

  Key definitions include:
    * `Op.rational`
    * `Tree.rational`
    * `Tree.DividesByZero`

  Main declarations:
    * `Tree.outcome_eq_unbound`
    * `Tree.outcome_eq_undefined`
    * `Tree.rational_of_outcome`
    * `Tree.outcome_classified`
-/

namespace Termwise

------------------------------------------------------------
-- Operations
------------------------------------------------------------

namespace Op

/- An operation in the field of the rationals. -/
def rational : Op → ℚ → ℚ → ℚ
| .add, p, q => p + q
| .sub, p, q => p - q
| .mul, p, q => p * q
| .div, p, q => p / q

/- An operation on two values is undefined on a zero divisor. -/
theorem apply_eq_undefined
    {op : Op}
    {p q : ℚ} :
    op.apply p q = .undefined ↔ op = .div ∧ q = 0 := by
  cases op with
  | add | sub | mul => simp [apply]
  | div => simp [apply]

/- Elsewhere it has the value that it has in the field. -/
theorem rational_of_apply
    {op : Op}
    {p q a : ℚ}
    (h : op.apply p q = .value a) :
    op.rational p q = a := by
  cases op with
  | add | sub | mul => exact Outcome.value.inj h
  | div =>
      rw [apply] at h
      split at h
      · cases h
      · exact Outcome.value.inj h

/-
  A variable of the left operand stops an operation, and one
  of the right operand if the left one has none.
-/
theorem combine_eq_unbound
    {op : Op}
    {o p : Outcome}
    {x : String} :
    op.combine o p = .unbound x ↔
      o = .unbound x ∨
        (∀ y, o ≠ .unbound y) ∧ p = .unbound x := by
  cases o with
  | unbound y => simp [combine]
  | undefined => cases p <;> simp [combine]
  | value a =>
      cases p with
      | unbound y | undefined => simp [combine]
      | value b => simp [combine, op.apply_ne_unbound a b x]

/-
  An operation is undefined if nothing stops it, and one of
  its operands is undefined or its divisor is zero.
-/
theorem combine_eq_undefined
    {op : Op}
    {o p : Outcome} :
    op.combine o p = .undefined ↔
      (∀ x, o ≠ .unbound x) ∧ (∀ x, p ≠ .unbound x) ∧
        (o = .undefined ∨ p = .undefined ∨
          op = .div ∧ p = .value 0) := by
  cases o with
  | unbound x => simp [combine]
  | undefined => cases p <;> simp [combine]
  | value a =>
      cases p with
      | unbound x | undefined => simp [combine]
      | value b => simp [combine, apply_eq_undefined]

/- A value of an operation comes from two values. -/
theorem combine_eq_value
    {op : Op}
    {o p : Outcome}
    {a : ℚ}
    (h : op.combine o p = .value a) :
    ∃ b c, o = .value b ∧ p = .value c ∧
      op.apply b c = .value a := by
  cases o with
  | unbound x => cases h
  | undefined => cases p <;> cases h
  | value b =>
      cases p with
      | unbound x | undefined => cases h
      | value c => exact ⟨b, c, rfl, rfl, h⟩

end Op

namespace Tree

------------------------------------------------------------
-- Variables
------------------------------------------------------------

/- The first variable of a tree stops it, and nothing else. -/
theorem outcome_eq_unbound
    {t : Tree}
    {x : String} :
    t.outcome = .unbound x ↔ t.names.head? = some x := by
  induction t generalizing x with
  | num n => simp [outcome, names]
  | var y => simp [outcome, names]
  | neg t ih =>
      rw [names, ← ih, outcome]
      cases t.outcome <;> simp [Outcome.negate]
  | bin op l r ihLeft ihRight =>
      rw [outcome, Op.combine_eq_unbound, ihRight, names,
        List.head?_append]
      simp only [ne_eq, ihLeft]
      cases l.names.head? with
      | none => simp
      | some y => simp

/- A tree is not stopped just if it has no variable. -/
theorem outcome_ne_unbound
    {t : Tree} :
    (∀ x, t.outcome ≠ .unbound x) ↔ t.names = [] := by
  simp only [ne_eq, outcome_eq_unbound]
  cases t.names with
  | nil => simp
  | cons x names => simp

------------------------------------------------------------
-- Divisions by Zero
------------------------------------------------------------

/- Some division within a tree has a divisor of value zero. -/
def DividesByZero (t : Tree) : Prop :=
  ∃ l r, bin .div l r ∈ t.parts ∧ r.outcome = .value 0

/- An operation does so within an operand, or by itself. -/
theorem dividesByZero_bin
    {op : Op}
    {l r : Tree} :
    (bin op l r).DividesByZero ↔
      l.DividesByZero ∨ r.DividesByZero ∨
        op = .div ∧ r.outcome = .value 0 := by
  simp only [DividesByZero, mem_parts_bin]
  constructor
  · rintro ⟨u, v, hSame | hLeft | hRight, hZero⟩
    · cases hSame
      exact .inr (.inr ⟨rfl, hZero⟩)
    · exact .inl ⟨u, v, hLeft, hZero⟩
    · exact .inr (.inl ⟨u, v, hRight, hZero⟩)
  · rintro (⟨u, v, hLeft, hZero⟩ | ⟨u, v, hRight, hZero⟩ |
      ⟨rfl, hZero⟩)
    · exact ⟨u, v, .inr (.inl hLeft), hZero⟩
    · exact ⟨u, v, .inr (.inr hRight), hZero⟩
    · exact ⟨l, r, .inl rfl, hZero⟩

/- A negation does so within its operand. -/
theorem dividesByZero_neg
    {t : Tree} :
    (neg t).DividesByZero ↔ t.DividesByZero := by
  simp [DividesByZero, mem_parts_neg]

/-
  A tree is undefined just if it has no variable and divides
  by zero.
-/
theorem outcome_eq_undefined
    {t : Tree} :
    t.outcome = .undefined ↔
      t.names = [] ∧ t.DividesByZero := by
  induction t with
  | num n => simp [outcome, DividesByZero, parts]
  | var x => simp [outcome, names]
  | neg t ih =>
      rw [names, dividesByZero_neg, ← ih, outcome]
      cases t.outcome <;> simp [Outcome.negate]
  | bin op l r ihLeft ihRight =>
      rw [outcome, Op.combine_eq_undefined, outcome_ne_unbound,
        outcome_ne_unbound, ihLeft, ihRight, names,
        List.append_eq_nil_iff, dividesByZero_bin]
      tauto

------------------------------------------------------------
-- Values
------------------------------------------------------------

/-
  What the field of the rationals makes of a tree.  There a
  quotient by zero is zero, as is a variable here.
-/
def rational : Tree → ℚ
| num n => n
| var _ => 0
| neg t => -t.rational
| bin op l r => op.rational l.rational r.rational

/- If a tree has a value it is that. -/
theorem rational_of_outcome
    {t : Tree}
    {q : ℚ}
    (h : t.outcome = .value q) :
    t.rational = q := by
  induction t generalizing q with
  | num n => exact Outcome.value.inj h
  | var x => cases h
  | neg t ih =>
      rw [outcome] at h
      cases hInner : t.outcome with
      | unbound x | undefined =>
          rw [hInner] at h
          cases h
      | value p =>
          rw [hInner] at h
          cases h
          rw [rational, ih hInner]
  | bin op l r ihLeft ihRight =>
      rcases Op.combine_eq_value h with
        ⟨a, b, hLeft, hRight, hApply⟩
      rw [rational, ihLeft hLeft, ihRight hRight]
      exact Op.rational_of_apply hApply

/-
  A tree is stopped just if it has a variable, and by the
  first one in reading order.  It is undefined just if it has
  none and some division within it has a divisor of value
  zero.  Otherwise it has a value, the one in the field of
  the rationals.
-/
theorem outcome_classified (t : Tree) :
    ((∃ x, t.outcome = .unbound x) ↔ t.names ≠ []) ∧
    (∀ x, t.outcome = .unbound x ↔ t.names.head? = some x) ∧
    (t.outcome = .undefined ↔
      t.names = [] ∧ t.DividesByZero) ∧
    ∀ q, t.outcome = .value q ↔
      t.names = [] ∧ ¬ t.DividesByZero ∧ t.rational = q := by
  refine ⟨?_, fun x => outcome_eq_unbound,
    outcome_eq_undefined, ?_⟩
  · rw [ne_eq, ← outcome_ne_unbound]
    exact not_forall_not.symm
  · intro q
    constructor
    · intro hValue
      have hNames : t.names = [] := by
        apply outcome_ne_unbound.mp
        intro x hStopped
        rw [hValue] at hStopped
        cases hStopped
      refine ⟨hNames, ?_, rational_of_outcome hValue⟩
      intro hZero
      have hUndefined :=
        outcome_eq_undefined.mpr ⟨hNames, hZero⟩
      rw [hValue] at hUndefined
      cases hUndefined
    · rintro ⟨hNames, hDefined, rfl⟩
      cases hOutcome : t.outcome with
      | unbound x =>
          exact absurd hOutcome (outcome_ne_unbound.mpr hNames x)
      | undefined =>
          exact absurd (outcome_eq_undefined.mp hOutcome).2
            hDefined
      | value q => rw [rational_of_outcome hOutcome]

end Tree

end Termwise
