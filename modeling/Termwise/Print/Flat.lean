import Termwise.Tree.Basic

/-
  This file defines the flat trees: those without divisions
  that can be written without parentheses and still be read
  as they are.

  Key definitions include:
    * `Tree.DivisionFree`
    * `Tree.Flat`
-/

namespace Termwise

namespace Tree

/- A tree has no division. -/
def DivisionFree : Tree → Prop
| num _ => True
| var _ => True
| neg t => t.DivisionFree
| bin op l r => op ≠ .div ∧ l.DivisionFree ∧ r.DivisionFree

/- A tree is a sum or a difference. -/
def IsSum : Tree → Prop
| bin .add _ _ => True
| bin .sub _ _ => True
| _ => False

/- A tree is an operation on two trees. -/
def IsOperation : Tree → Prop
| bin _ _ _ => True
| _ => False

/-
  No node of a tree needs parentheses: a sum has no sum on
  its right, a product no sum on its left and no operation
  on its right, and a negation has no operation below it.
-/
def Flat : Tree → Prop
| num _ => True
| var _ => True
| neg t => t.Flat ∧ ¬ t.IsOperation
| bin .add l r => l.Flat ∧ r.Flat ∧ ¬ r.IsSum
| bin .sub l r => l.Flat ∧ r.Flat ∧ ¬ r.IsSum
| bin _ l r =>
    l.Flat ∧ r.Flat ∧ ¬ l.IsSum ∧ ¬ r.IsOperation

end Tree

end Termwise
