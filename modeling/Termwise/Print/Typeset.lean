import Termwise.Print.Limit

/-
  This file defines the form of trees for mathematical
  typesetting.  A quotient is written as a fraction and a
  product with a centred dot; nothing stands in parentheses,
  so the grouping of a tree is not always kept.

  Key definitions include:
    * `Tree.typesetChars`
    * `Tree.toTypeset`
-/

namespace Termwise

namespace Tree

/- The command of a fraction. -/
def fractionCommand : List Char :=
  ['\\', 'f', 'r', 'a', 'c']

/- The command of a centred dot. -/
def dotCommand : List Char :=
  ['\\', 'c', 'd', 'o', 't']

/- The characters of the typeset form. -/
def typesetChars : Tree → List Char
| num n => Text.numeral n
| var x => x.toList
| neg t => ['-'] ++ t.typesetChars
| bin .add l r =>
    l.typesetChars ++ [' ', '+', ' '] ++ r.typesetChars
| bin .sub l r =>
    l.typesetChars ++ [' ', '-', ' '] ++ r.typesetChars
| bin .mul l r =>
    l.typesetChars ++ [' '] ++ dotCommand ++ [' ']
      ++ r.typesetChars
| bin .div l r =>
    fractionCommand ++ ['\x7b'] ++ l.typesetChars
      ++ ['\x7d', '\x7b'] ++ r.typesetChars ++ ['\x7d']

/- A sum and a difference stand around their sign. -/
theorem typesetChars_sum
    {op : Op}
    (h : op = .add ∨ op = .sub)
    (l r : Tree) :
    (bin op l r).typesetChars =
      l.typesetChars ++ ' ' :: op.sign :: ' '
        :: r.typesetChars := by
  rcases h with rfl | rfl
  all_goals simp [typesetChars, Op.sign]

/- A product stands around the command of its dot. -/
theorem typesetChars_mul (l r : Tree) :
    (bin .mul l r).typesetChars =
      l.typesetChars ++ ' ' :: (dotCommand ++ ' '
        :: r.typesetChars) := by
  simp [typesetChars]

/- A fraction has its command in front of two groups. -/
theorem typesetChars_div (l r : Tree) :
    (bin .div l r).typesetChars =
      fractionCommand ++ '\x7b' :: (l.typesetChars ++ '\x7d'
        :: '\x7b' :: (r.typesetChars ++ ['\x7d'])) := by
  simp [typesetChars]

/- The typeset form of a tree. -/
def toTypeset (t : Tree) : Except Overlong String :=
  t.writeBy typesetChars

end Tree

end Termwise
