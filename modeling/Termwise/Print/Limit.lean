import Termwise.Text.Decimal
import Termwise.Tree.Basic

/-
  This file defines which trees can be written out: those in
  which no number has too many digits.

  Key definitions include:
    * `Tree.numbers`
    * `Tree.Writable`
    * `Tree.writeBy`
-/

namespace Termwise

namespace Tree

/- The numbers of a tree in reading order. -/
def numbers : Tree → List Nat
| num n => [n]
| var _ => []
| neg t => t.numbers
| bin _ l r => l.numbers ++ r.numbers

/- Every number of a tree has few enough digits. -/
def Writable (t : Tree) : Prop :=
  ∀ n ∈ t.numbers, Text.Writable n

instance (t : Tree) : Decidable t.Writable :=
  inferInstanceAs (Decidable (∀ n ∈ t.numbers, _))

/- A number can be written out as a tree if it can at all. -/
theorem writable_num
    {n : Nat} :
    (num n).Writable ↔ Text.Writable n :=
  List.forall_mem_singleton

/- An operation can be if both of its operands can. -/
theorem writable_bin
    {op : Op}
    {l r : Tree} :
    (bin op l r).Writable ↔ l.Writable ∧ r.Writable :=
  List.forall_mem_append

/- Write a tree that can be written out. -/
def writeBy
    (write : Tree → List Char)
    (t : Tree) : Except Overlong String :=
  if t.Writable then .ok (String.ofList (write t))
  else .error .number

end Tree

end Termwise
