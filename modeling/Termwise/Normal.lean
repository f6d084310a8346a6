import Termwise.Tree.Basic

/-
  This file defines the normal forms of trees, apart from
  how trees are reduced.  Nothing is left to do in a normal
  tree: no negation is negated, and no operation has two
  integers and an integer result.

  Key definitions include:
    * `Op.Exact`
    * `Tree.Normal`
-/

namespace Termwise

/-
  The result of an operation on two integers is an integer:
  always, except for a division by zero or with a remainder.
-/
def Op.Exact : Op → Int → Int → Prop
| .div, a, b => b ≠ 0 ∧ b ∣ a
| _, _, _ => True

instance (op : Op) (a b : Int) : Decidable (op.Exact a b) := by
  cases op <;> unfold Op.Exact <;> infer_instance

namespace Tree

/- A tree is a negation. -/
def IsNegation : Tree → Prop
| neg _ => True
| _ => False

instance (t : Tree) : Decidable t.IsNegation := by
  cases t <;> unfold IsNegation <;> infer_instance

/- Two trees stand for integers with an integer result. -/
def Collapses (op : Op) (l r : Tree) : Prop :=
  ∃ a ∈ l.integer?, ∃ b ∈ r.integer?, op.Exact a b

instance (op : Op) (l r : Tree) :
    Decidable (Collapses op l r) :=
  inferInstanceAs
    (Decidable (∃ a ∈ l.integer?, ∃ b ∈ r.integer?, _))

/- There is nothing to reduce in a tree. -/
def Normal : Tree → Prop
| num _ => True
| var _ => True
| neg t => t.Normal ∧ ¬ t.IsNegation
| bin op l r => l.Normal ∧ r.Normal ∧ ¬ Collapses op l r

instance instDecidableNormal :
    (t : Tree) → Decidable t.Normal
| num _ => .isTrue trivial
| var _ => .isTrue trivial
| neg t =>
    have := instDecidableNormal t
    inferInstanceAs (Decidable (t.Normal ∧ ¬ t.IsNegation))
| bin op l r =>
    have := instDecidableNormal l
    have := instDecidableNormal r
    inferInstanceAs
      (Decidable
        (l.Normal ∧ r.Normal ∧ ¬ Collapses op l r))

end Tree

end Termwise
