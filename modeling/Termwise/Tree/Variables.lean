import Termwise.Tree.Basic

/-
  This file defines the variables of trees and their
  replacement by integers.

  Key definitions include:
    * `Tree.names`
    * `insertName`
    * `variablesOf`
    * `Tree.substitute`
-/

namespace Termwise

------------------------------------------------------------
-- Variables
------------------------------------------------------------

/- The variables of a tree, repeated, in reading order. -/
def Tree.names : Tree → List String
| .num _ => []
| .var x => [x]
| .neg t => t.names
| .bin _ l r => l.names ++ r.names

/- Insert a name into an ascending list without repetition. -/
def insertName
    (x : String) : List String → List String
| [] => [x]
| y :: ys =>
    if x < y then x :: y :: ys
    else if x = y then y :: ys
    else y :: insertName x ys

/-
  The variables of some trees, each once, in ascending order
  of their code points.
-/
def variablesOf (ts : List Tree) : List String :=
  (ts.flatMap Tree.names).foldr insertName []

------------------------------------------------------------
-- Substitution
------------------------------------------------------------

/-
  Replace every variable that has a value by the tree of
  that value, and leave the others.
-/
def Tree.substitute
    (value? : String → Option Int) : Tree → Tree
| .num n => .num n
| .var x =>
    match value? x with
    | some n => .ofInt n
    | none => .var x
| .neg t => .neg (t.substitute value?)
| .bin op l r =>
    .bin op (l.substitute value?) (r.substitute value?)

end Termwise
