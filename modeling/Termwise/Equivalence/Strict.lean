import Termwise.Equivalence.Check

/-
  This file defines the equivalence check once more, in
  steps that may have no result.

  A division stops at a zero divisor, a conversion to a
  double stops beyond the range, and a tree that is asked
  for its integer or its value stops if it has none.  What
  keeps the check from stopping there is in front of these
  steps: the conditions under which they are taken.

  Key definitions include:
    * `Strict.Stop`
    * `Strict.remainder`, `Strict.quotient`
    * `Strict.reduce`
    * `Strict.divide`
    * `Strict.fold`
    * `Strict.toDouble`
    * `Strict.runTrial`
    * `Strict.runTrials`
    * `Strict.check`
-/

namespace Termwise

namespace Strict

/- Why a step has no result. -/
inductive Stop where
| fault : CheckFault → Stop
| notInteger : Tree → Stop
| zeroDivision
| beyondRange
deriving DecidableEq, Repr

------------------------------------------------------------
-- Reduction
------------------------------------------------------------

/- The integer that a tree stands for. -/
def integer (t : Tree) : Except Stop Int :=
  match t.integer? with
  | some n => .ok n
  | none => .error (.notInteger t)

/- What a division that rounds down leaves. -/
def remainder (a b : Int) : Except Stop Int :=
  if b = 0 then .error .zeroDivision else .ok (a.fmod b)

/- The result of a division that rounds down. -/
def quotient (a b : Int) : Except Stop Int :=
  if b = 0 then .error .zeroDivision else .ok (a.fdiv b)

/-
  The integer result of an operation, if there is one.  The
  divisor is looked at before the remainder is taken.
-/
def exactly : Op → Int → Int → Except Stop (Option Int)
| .add, a, b => .ok (some (a + b))
| .sub, a, b => .ok (some (a - b))
| .mul, a, b => .ok (some (a * b))
| .div, a, b =>
    if b = 0 then .ok none
    else do
      let left ← remainder a b
      if left = 0 then return some (← quotient a b)
      else return none

/- Join two reduced trees by an operation. -/
def join (op : Op) (l r : Tree) : Except Stop Tree :=
  if l.integer?.isSome ∧ r.integer?.isSome then do
    let a ← integer l
    let b ← integer r
    match ← exactly op a b with
    | some n => return .ofInt n
    | none => return .bin op l r
  else
    .ok (.bin op l r)

/- Reduce a tree, from the leaves up. -/
def reduce : Tree → Except Stop Tree
| .num n => .ok (.num n)
| .var x => .ok (.var x)
| .neg t => do
    let u ← reduce t
    return u.negated
| .bin op l r => do
    let u ← reduce l
    let v ← reduce r
    join op u v

------------------------------------------------------------
-- Values
------------------------------------------------------------

/- The quotient of two rational numbers. -/
def divide (p q : Rat) : Except Stop Rat :=
  if q = 0 then .error .zeroDivision else .ok (p / q)

/- The result of an operation on values, if it is defined. -/
def apply : Op → Rat → Rat → Except Stop (Option Rat)
| .add, p, q => .ok (some (p + q))
| .sub, p, q => .ok (some (p - q))
| .mul, p, q => .ok (some (p * q))
| .div, p, q =>
    if q = 0 then .ok none
    else do
      return some (← divide p q)

/-
  The value of a tree, if it is defined.  Both operands are
  folded before either of them is looked at.
-/
def fold : Tree → Except Stop (Option Rat)
| .num n => .ok (some n)
| .var x => .error (.fault (.unbound x))
| .neg t => do
    match ← fold t with
    | some p => return some (-p)
    | none => return none
| .bin op l r => do
    let p? ← fold l
    let q? ← fold r
    match p?, q? with
    | some p, some q => apply op p q
    | _, _ => return none

/- The value of a tree under an assignment. -/
def valueUnder
    (a : Assignment)
    (t : Tree) : Except Stop (Option Rat) := do
  let u ← reduce (t.substitute a.value?)
  fold u

/- The double nearest to a quotient. -/
def nearest (num : Int) (den : Nat) : Except Stop Double :=
  if den = 0 then .error .zeroDivision
  else
    match
      Double.ofQuotient (decide (num < 0)) num.natAbs den with
    | .infinite _ => .error .beyondRange
    | x => .ok x

/-
  The double that a rational number is shown as.  One that
  is beyond the range is shown as an infinity.
-/
def toDouble (q : Rat) : Except Stop Double :=
  match nearest q.num q.den with
  | .error .beyondRange => .ok (.infinite (decide (¬ 0 < q)))
  | result => result

------------------------------------------------------------
-- Checks
------------------------------------------------------------

variable {σ : Type} [Source σ]

/- Compare two expressions under an assignment. -/
def runTrial
    (tolerance : Rat)
    (a : Assignment)
    (t u : Tree) : Except Stop Trial := do
  let p? ← valueUnder a t
  let q? ← valueUnder a u
  match p?, q? with
  | some p, some q =>
      if tolerance < distance p q then return .refuted p q
      else return .agreed
  | _, _ => return .skipped

/- Report a trial that refutes. -/
def refutation
    (names : List String)
    (made skipped : Nat)
    (a : Assignment)
    (p q : Rat) : Except Stop Report := do
  let left ← toDouble p
  let right ← toDouble q
  return ⟨false, names, made, skipped, some ⟨a, left, right⟩⟩

/-
  Make up to `left` more trials, after `made` of them, of
  which some were skipped.
-/
def runTrials
    (cfg : Config)
    (tolerance : Rat)
    (names : List String)
    (t u : Tree)
    (skipped made : Nat) :
    Nat → σ → Except Stop Report × σ
| 0, s => (.ok ⟨true, names, made, skipped, none⟩, s)
| left + 1, s =>
    let (a, s) := drawAll cfg.low cfg.high names s
    match runTrial tolerance a t u with
    | .error f => (.error f, s)
    | .ok .skipped =>
        runTrials cfg tolerance names t u
          (skipped + 1) (made + 1) left s
    | .ok .agreed =>
        runTrials cfg tolerance names t u
          skipped (made + 1) left s
    | .ok (.refuted p q) =>
        (refutation names (made + 1) skipped a p q, s)

/- Check two expressions. -/
def check
    (cfg : Config)
    (t u : Tree)
    (s : σ) : Except Stop Report × σ :=
  match cfg.tolerance.asTolerance with
  | .error f => (.error (.fault (.tolerance f)), s)
  | .ok tolerance =>
      runTrials cfg tolerance (variablesOf [t, u]) t u
        0 0 cfg.trials s

end Strict

end Termwise
