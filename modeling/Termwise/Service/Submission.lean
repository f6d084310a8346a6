import Termwise.Schema.TreeForm
import Termwise.Syntax.Parse

/-
  This file defines what the bodies of requests hold, and
  how they are read from JSON values.

  An expression is submitted by its text or by its tree, and
  by one of them only.  A tree may have broken names, which
  keep it from being shown but not from being read.

  Key definitions include:
    * `Submission`
    * `Submission.resolve`
    * `Submission.isWritable`
    * `Submission.ofJson`
    * `ParseBody.ofJson`
    * `ReduceBody`
    * `ReduceBody.ofJson`
    * `CompareBody`
    * `CompareBody.ofJson`
-/

namespace Termwise

------------------------------------------------------------
-- Expressions
------------------------------------------------------------

/-
  An expression that is submitted as a text or as a tree.  A
  broken tree has stand-ins where its names were broken.
-/
inductive Submission where
| text : String → Submission
| tree : Tree → Submission
| brokenTree : Tree → Submission
deriving DecidableEq, Repr

namespace Submission

/- The greatest length of a text that is submitted. -/
def textLimit : Nat :=
  10000

/- The tree of what is submitted. -/
def resolve : Submission → Except SyntaxFault Tree
| text s => parse s
| tree t => .ok t
| brokenTree t => .ok t

/- The expression can be shown to others. -/
def isWritable : Submission → Bool
| brokenTree _ => false
| _ => true

/- Read a tree, which is broken if only names are. -/
def treeOfJson (j : Json) : Checked Submission :=
  match Tree.ofJson .data j with
  | .ok t => .ok (.tree t)
  | .error _ => (Tree.ofJson .loose j).map .brokenTree

/- The text and the tree that are given, if they are. -/
def parts (fields : List (String × Json)) :
    Checked (Option String × Option Submission) :=
  Checked.both
    (defaulted "text" fields
      (Checked.taken
        (Scalar.optional (Scalar.textUpTo textLimit))) none)
    (defaulted "tree" fields
      (Scalar.optional treeOfJson) none)

/- One of a text and a tree, if only one is in the fields. -/
def choose
    (fields : List (String × Json))
    (s? : Option String)
    (t? : Option Submission) : Checked Submission :=
  match s?, t? with
  | some s, none => .ok (.text s)
  | none, some t => .ok t
  | _, _ => .issue .notExactlyOne (.object fields)

/- Read what is submitted from fields. -/
def ofFields (fields : List (String × Json)) :
    Checked Submission :=
  match parts fields with
  | .error issues => .error issues
  | .ok (s?, t?) => choose fields s? t?

/- Read what is submitted. -/
def ofJson (j : Json) : Checked Submission :=
  match objectFields j with
  | .error issues => .error issues
  | .ok fields => ofFields fields

end Submission

------------------------------------------------------------
-- Bodies
------------------------------------------------------------

/- Read the text of a body that holds nothing else. -/
def ParseBody.ofJson (j : Json) : Checked String :=
  match objectFields j with
  | .error issues => .error issues
  | .ok fields =>
      required "text" fields fun v _ =>
        Checked.taken (Scalar.textUpTo Submission.textLimit) v

/- An expression to reduce, and if the steps are wanted. -/
structure ReduceBody where
  expression : Submission
  steps : Bool
deriving DecidableEq, Repr

namespace ReduceBody

/-
  Read an expression to reduce.  If it is given only once is
  looked at when all fields are right.
-/
def ofJson (j : Json) : Checked ReduceBody :=
  match objectFields j with
  | .error issues => .error issues
  | .ok fields =>
      match Checked.both (Submission.parts fields)
          (defaulted "steps" fields
            (Checked.taken Scalar.truth) false) with
      | .error issues => .error issues
      | .ok ((s?, t?), steps) =>
          (Submission.choose fields s? t?).map
            fun e => ⟨e, steps⟩

end ReduceBody

/- Two expressions to compare, a seed, a number of trials. -/
structure CompareBody where
  left : Submission
  right : Submission
  seed : Option Int
  trials : Option Int
deriving DecidableEq, Repr

namespace CompareBody

/- Read two expressions to compare. -/
def ofJson (j : Json) : Checked CompareBody :=
  match objectFields j with
  | .error issues => .error issues
  | .ok fields =>
      (Checked.both
        (required "expr1" fields fun v _ => Submission.ofJson v)
        (Checked.both
          (required "expr2" fields fun v _ =>
            Submission.ofJson v)
          (Checked.both
            (defaulted "seed" fields
              (Checked.taken
                (Scalar.optional Scalar.integer)) none)
            (defaulted "trials" fields
              (Checked.taken
                (Scalar.optional
                  (Scalar.integerBetween 1 1000))) none)))).map
        fun (left, right, seed, trials) =>
          ⟨left, right, seed, trials⟩

end CompareBody

end Termwise
