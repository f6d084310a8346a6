/-
  This file defines algebraic expressions as trees.

  A number in a tree is a natural number: a negative integer
  `-n` is the negation of the number `n`.

  Key definitions include:
    * `Op`
    * `Op.sign`
    * `Op.power`
    * `Tree`
    * `Tree.size`
    * `Tree.ofInt`
    * `Tree.integer?`
-/

namespace Termwise

------------------------------------------------------------
-- Operators
------------------------------------------------------------

/- The four binary operators. -/
inductive Op where
| add
| sub
| mul
| div
deriving DecidableEq, Repr

namespace Op

/- The character that an operator is written with. -/
def sign : Op → Char
| .add => '+'
| .sub => '-'
| .mul => '*'
| .div => '/'

/-
  The binding power of an operator.  Of two neighbours the
  one with the greater power takes the operand between
  them, and equal powers group to the left.
-/
def power : Op → Nat
| .add => 10
| .sub => 10
| .mul => 20
| .div => 20

end Op

------------------------------------------------------------
-- Trees
------------------------------------------------------------

/- An algebraic expression. -/
inductive Tree where
| num : Nat → Tree
| var : String → Tree
| neg : Tree → Tree
| bin : Op → Tree → Tree → Tree
deriving DecidableEq, Repr

namespace Tree

/- The number of nodes of a tree. -/
def size : Tree → Nat
| num _ => 1
| var _ => 1
| neg t => 1 + t.size
| bin _ l r => 1 + l.size + r.size

/- Every tree has a node. -/
theorem size_pos (t : Tree) : 0 < t.size := by
  cases t <;> simp only [size] <;> omega

/- The tree of an integer: a number, or a negated one. -/
def ofInt : Int → Tree
| .ofNat n => num n
| .negSucc n => neg (num (n + 1))

/-
  The integer that a tree stands for, if the tree is a
  number or the negation of a number.
-/
def integer? : Tree → Option Int
| num n => some n
| neg (num n) => some (-n)
| _ => none

/- Just a number or a negated one stands for an integer. -/
theorem integer?_cases
    {t : Tree}
    {n : Int}
    (h : t.integer? = some n) :
    (∃ m : Nat, t = num m ∧ n = m) ∨
      ∃ m : Nat, t = neg (num m) ∧ n = -m := by
  cases t with
  | num m =>
      cases h
      exact .inl ⟨m, rfl, rfl⟩
  | neg t =>
      cases t with
      | num m =>
          cases h
          exact .inr ⟨m, rfl, rfl⟩
      | var | neg | bin => cases h
  | var | bin => cases h

/- The tree of an integer stands for that integer. -/
theorem integer?_ofInt (n : Int) :
    (ofInt n).integer? = some n := by
  cases n with
  | ofNat n => rfl
  | negSucc n => rfl

end Tree

end Termwise
