import Mathlib.Algebra.GroupWithZero.Nat
import Termwise.Syntax.Token

/-
  This file defines how many minus signs and parentheses are
  open behind some lexemes, apart from any tree.

  A minus sign where an operand is due stands in front of
  that operand.  It is open until its operand is complete,
  and a parenthesis until it is closed.

  Key definitions include:
    * `Opened`
    * `Opened.after`
    * `Opened.count`
    * `openings`
-/

namespace Termwise

/-
  What is open behind some lexemes: if an operand is due, the
  minus signs that wait for it, and for every parenthesis,
  the last one first, the minus signs that wait for it.
-/
structure Opened where
  isDue : Bool
  signs : Nat
  outer : List Nat
deriving DecidableEq, Repr

namespace Opened

/- Nothing is open in front of the first lexeme. -/
def start : Opened :=
  ⟨true, 0, []⟩

/- What is open behind one lexeme more. -/
def after (o : Opened) : Lexeme → Opened
| .number _ => ⟨false, 0, o.outer⟩
| .name _ => ⟨false, 0, o.outer⟩
| .op .sub =>
    if o.isDue then ⟨true, o.signs + 1, o.outer⟩
    else ⟨true, 0, o.outer⟩
| .op _ => ⟨true, 0, o.outer⟩
| .opening => ⟨true, 0, o.signs :: o.outer⟩
| .closing => ⟨false, 0, o.outer.tail⟩

/- What is open behind some lexemes more. -/
def afterAll (o : Opened) (ls : List Lexeme) : Opened :=
  ls.foldl after o

/- The number of minus signs and parentheses that are open. -/
def count (o : Opened) : Nat :=
  o.signs + (o.outer.map (· + 1)).sum

end Opened

/- How many of them are open behind some lexemes. -/
def openings (ls : List Lexeme) : Nat :=
  (Opened.start.afterAll ls).count

end Termwise
