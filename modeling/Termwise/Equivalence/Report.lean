import Termwise.Double.Basic

/-
  This file defines what an equivalence check reports.

  Key definitions include:
    * `Assignment`
    * `Counterexample`
    * `Report`
-/

namespace Termwise

/- Values of variables, in ascending order of the names. -/
abbrev Assignment :=
  List (String × Int)

/- The value of a variable. -/
def Assignment.value? (a : Assignment) (x : String) :
    Option Int :=
  a.lookup x

/-
  An assignment under which two expressions differ, and
  their values rounded to doubles.
-/
structure Counterexample where
  assignment : Assignment
  left : Double
  right : Double
deriving DecidableEq, Repr

/-
  The result of a check: its verdict, the variables, how many
  trials were made, how many of them had an undefined value,
  and the counterexample if one was found.
-/
structure Report where
  equivalent : Bool
  names : List String
  trialsRun : Nat
  trialsSkipped : Nat
  counterexample : Option Counterexample
deriving DecidableEq, Repr

end Termwise
