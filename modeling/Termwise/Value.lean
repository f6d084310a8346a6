import Termwise.Text.Quoted
import Termwise.Tree.Basic

/-
  This file defines the exact value of a tree under true
  division.

  Key definitions include:
    * `Outcome`
    * `Op.apply`
    * `Tree.outcome`
    * `EvaluationFault`
-/

namespace Termwise

------------------------------------------------------------
-- Outcomes
------------------------------------------------------------

/-
  What becomes of a tree when it is evaluated: it has a
  variable without a value, or it divides by zero, or it has
  a rational value.
-/
inductive Outcome where
| unbound : String → Outcome
| undefined : Outcome
| value : Rat → Outcome
deriving DecidableEq, Repr

namespace Outcome

/- The outcome of a negation. -/
def negate : Outcome → Outcome
| unbound x => unbound x
| undefined => undefined
| value q => value (-q)

end Outcome

/- The outcome of an operation on two values. -/
def Op.apply : Op → Rat → Rat → Outcome
| .add, p, q => .value (p + q)
| .sub, p, q => .value (p - q)
| .mul, p, q => .value (p * q)
| .div, p, q => if q = 0 then .undefined else .value (p / q)

/-
  The outcome of an operation.  A variable without a value
  counts before a division by zero, and of two of them the
  left one.
-/
def Op.combine (op : Op) : Outcome → Outcome → Outcome
| .unbound x, _ => .unbound x
| _, .unbound x => .unbound x
| .undefined, _ => .undefined
| _, .undefined => .undefined
| .value p, .value q => op.apply p q

/- The outcome of a tree. -/
def Tree.outcome : Tree → Outcome
| .num n => .value n
| .var x => .unbound x
| .neg t => t.outcome.negate
| .bin op l r => op.combine l.outcome r.outcome

------------------------------------------------------------
-- Faults
------------------------------------------------------------

/-
  A tree does not have the value that was asked for: it has
  a variable without a value, or it is not an integer.
-/
inductive EvaluationFault where
| unbound : String → EvaluationFault
| notInteger : String → EvaluationFault
deriving DecidableEq, Repr

/- The wording of a fault; a tree is told by its infix form. -/
def EvaluationFault.message : EvaluationFault → String
| unbound x => "Niezwiązana zmienna: " ++ Text.quoted x
| notInteger form => "Expression is not a number: " ++ form

end Termwise
