import Termwise.Print.Limit

/-
  This file defines the infix form of trees, in which every
  operation stands in parentheses.

  Key definitions include:
    * `Tree.infixChars`
    * `Tree.toInfix`
-/

namespace Termwise

namespace Tree

/- The characters of the infix form. -/
def infixChars : Tree → List Char
| num n => Text.numeral n
| var x => x.toList
| neg t => ['(', '-'] ++ t.infixChars ++ [')']
| bin op l r =>
    ['('] ++ l.infixChars ++ [' ', op.sign, ' ']
      ++ r.infixChars ++ [')']

/-
  The infix form of a tree.  It is made for trees of any
  depth: a limit of the recursion is not modelled.
-/
def toInfix (t : Tree) : Except Overlong String :=
  t.writeBy infixChars

end Tree

end Termwise
