import Termwise.Print.Infix

/-
  This file defines the reduction of trees by exact integer
  arithmetic, and the steps that a reduction takes.

  An operation on two integers is replaced by its result, a
  division only if it leaves no remainder, and two negations
  in a row are dropped.  Nothing is reordered.

  Key definitions include:
    * `Op.exact?`
    * `Tree.join`
    * `Tree.negated`
    * `Tree.reduce`
    * `Step`
    * `Step.chars`
    * `Tree.reduceLogged`
    * `Tree.trace`
-/

namespace Termwise

------------------------------------------------------------
-- Exact Arithmetic
------------------------------------------------------------

/-
  The integer result of an operation.  A division has one
  only if the divisor is not zero and divides the dividend.
-/
def Op.exact? : Op → Int → Int → Option Int
| .add, a, b => some (a + b)
| .sub, a, b => some (a - b)
| .mul, a, b => some (a * b)
| .div, a, b =>
    if b ≠ 0 ∧ a % b = 0 then some (a / b) else none

namespace Tree

/- The result of an operation on the integers of two trees. -/
def collapse?
    (op : Op)
    (l r : Tree) : Option (Int × Int × Int) :=
  match l.integer?, r.integer? with
  | some a, some b =>
      match op.exact? a b with
      | some n => some (a, b, n)
      | none => none
  | _, _ => none

/- Join two reduced trees by an operation. -/
def join (op : Op) (l r : Tree) : Tree :=
  match collapse? op l r with
  | some (_, _, n) => ofInt n
  | none => bin op l r

/- Negate a reduced tree. -/
def negated : Tree → Tree
| neg t => t
| t => neg t

/-
  Reduce a tree, from the leaves up.  Trees of any depth are
  reduced: a limit of the recursion is not modelled.
-/
def reduce : Tree → Tree
| num n => num n
| var x => var x
| neg t => t.reduce.negated
| bin op l r => join op l.reduce r.reduce

end Tree

------------------------------------------------------------
-- Steps
------------------------------------------------------------

/-
  One step of a reduction: an operation on two integers with
  its result, or a tree that was negated twice.
-/
inductive Step where
| collapsed : Op → Int → Int → Int → Step
| unnegated : Tree → Step
deriving DecidableEq, Repr

namespace Step

/- An operand in a step; a negative one is put in brackets. -/
def operandChars (n : Int) : List Char :=
  if n < 0 then ['('] ++ Text.integerChars n ++ [')']
  else Text.integerChars n

/- The equation that a step is written as. -/
def chars : Step → List Char
| collapsed op a b n =>
    operandChars a ++ [' ', op.sign, ' '] ++ operandChars b
      ++ [' ', '=', ' '] ++ Text.integerChars n
| unnegated t =>
    ['-', '(', '-'] ++ t.infixChars ++ [')', ' ', '=', ' ']
      ++ t.infixChars

/- Every number of a step has few enough digits. -/
def Writable : Step → Prop
| collapsed _ a b n =>
    Text.Writable a.natAbs ∧ Text.Writable b.natAbs ∧
      Text.Writable n.natAbs
| unnegated t => t.Writable

instance (s : Step) : Decidable s.Writable := by
  cases s <;> unfold Writable <;> infer_instance

/- The text of a step. -/
def text (s : Step) : String :=
  String.ofList s.chars

end Step

------------------------------------------------------------
-- Traces
------------------------------------------------------------

namespace Tree

/- The step that joining two reduced trees takes, if any. -/
def joinSteps (op : Op) (l r : Tree) : List Step :=
  match collapse? op l r with
  | some (a, b, n) => [.collapsed op a b n]
  | none => []

/- The step that negating a reduced tree takes, if any. -/
def negatedSteps : Tree → List Step
| neg t => [.unnegated t]
| _ => []

/- Reduce a tree and keep the steps, the first one first. -/
def reduceLogged : Tree → Tree × List Step
| num n => (num n, [])
| var x => (var x, [])
| neg t =>
    let (u, steps) := t.reduceLogged
    (u.negated, steps ++ u.negatedSteps)
| bin op l r =>
    let (u, left) := l.reduceLogged
    let (v, right) := r.reduceLogged
    (join op u v, left ++ right ++ joinSteps op u v)

/- A reduced tree, and the steps that led to it. -/
structure Trace where
  result : Tree
  steps : List String
deriving DecidableEq, Repr

/-
  Reduce a tree and write out the steps.  The tree and its
  result are reported with them, so they have to be writable
  as well.
-/
def trace (t : Tree) : Except Overlong Trace :=
  let (u, steps) := t.reduceLogged
  if t.Writable ∧ u.Writable ∧ ∀ s ∈ steps, s.Writable then
    .ok ⟨u, steps.map Step.text⟩
  else
    .error .number

end Tree

end Termwise
