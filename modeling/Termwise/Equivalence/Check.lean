import Termwise.Draw.Source
import Termwise.Equivalence.Config
import Termwise.Equivalence.Report
import Termwise.Reduce
import Termwise.Tree.Variables
import Termwise.Value

/-
  This file defines the equivalence check by random trials.

  Each trial draws a value for every variable, replaces the
  variables by their values on both sides, and compares the
  exact values of the reduced sides.  A trial in which a
  side divides by zero is skipped.  The first trial in which
  the sides differ by more than the tolerance ends the
  check.

  Key definitions include:
    * `CheckFault`
    * `drawAll`
    * `valueUnder`
    * `Trial`
    * `runTrial`
    * `Run`
    * `runTrials`
    * `check`
    * `areEquivalent`
-/

namespace Termwise

------------------------------------------------------------
-- Faults
------------------------------------------------------------

/- What can stop a check before it has a report. -/
inductive CheckFault where
| tolerance : ToleranceFault → CheckFault
| unbound : String → CheckFault
deriving DecidableEq, Repr

/- The wording of a fault. -/
def CheckFault.message : CheckFault → String
| tolerance f => f.message
| unbound x => (EvaluationFault.unbound x).message

------------------------------------------------------------
-- Trials
------------------------------------------------------------

variable {σ : Type} [Source σ]

/- Draw a value for each of some variables in turn. -/
def drawAll
    (low high : Int) : List String → σ → Assignment × σ
| [], s => ([], s)
| x :: xs, s =>
    let (n, s) := Source.draw low high s
    let (rest, s) := drawAll low high xs s
    ((x, n) :: rest, s)

/- What becomes of an expression under an assignment. -/
def valueUnder (a : Assignment) (t : Tree) : Outcome :=
  (t.substitute a.value?).reduce.outcome

/- The absolute value of a rational number. -/
def distance (p q : Rat) : Rat :=
  if p ≤ q then q - p else p - q

/- How a trial ends. -/
inductive Trial where
| skipped
| agreed
| refuted : Rat → Rat → Trial
deriving DecidableEq, Repr

/- Compare two expressions under an assignment. -/
def runTrial
    (tolerance : Rat)
    (a : Assignment)
    (t u : Tree) : Except CheckFault Trial :=
  match valueUnder a t, valueUnder a u with
  | .unbound x, _ => .error (.unbound x)
  | _, .unbound x => .error (.unbound x)
  | .undefined, _ => .ok .skipped
  | _, .undefined => .ok .skipped
  | .value p, .value q =>
      if tolerance < distance p q then .ok (.refuted p q)
      else .ok .agreed

------------------------------------------------------------
-- Runs
------------------------------------------------------------

/-
  A finished check: its report, and the trials that were
  skipped with their assignments, the last one first.
-/
structure Run where
  report : Report
  skips : List (Nat × Assignment)
deriving DecidableEq, Repr

/-
  Make up to `left` more trials, after `made` of them with
  the given skips.
-/
def runTrials
    (cfg : Config)
    (tolerance : Rat)
    (names : List String)
    (t u : Tree)
    (skips : List (Nat × Assignment))
    (made : Nat) :
    Nat → σ → Except CheckFault Run × σ
| 0, s =>
    (.ok ⟨⟨true, names, made, skips.length, none⟩, skips⟩, s)
| left + 1, s =>
    let (a, s) := drawAll cfg.low cfg.high names s
    match runTrial tolerance a t u with
    | .error f => (.error f, s)
    | .ok .skipped =>
        runTrials cfg tolerance names t u
          ((made + 1, a) :: skips) (made + 1) left s
    | .ok .agreed =>
        runTrials cfg tolerance names t u
          skips (made + 1) left s
    | .ok (.refuted p q) =>
        let c : Counterexample :=
          ⟨a, Double.ofRat p, Double.ofRat q⟩
        (.ok
          ⟨⟨false, names, made + 1, skips.length, some c⟩,
            skips⟩,
          s)

/-
  Check two expressions and keep the skipped trials.  The
  tolerance is looked at before anything is drawn.
-/
def checkRun
    (cfg : Config)
    (t u : Tree)
    (s : σ) : Except CheckFault Run × σ :=
  match cfg.tolerance.asTolerance with
  | .error f => (.error (.tolerance f), s)
  | .ok tolerance =>
      runTrials cfg tolerance (variablesOf [t, u]) t u
        [] 0 cfg.trials s

/- Check two expressions. -/
def check
    (cfg : Config)
    (t u : Tree)
    (s : σ) : Except CheckFault Report × σ :=
  match checkRun cfg t u s with
  | (.ok run, s) => (.ok run.report, s)
  | (.error f, s) => (.error f, s)

/- Check two expressions for the verdict alone. -/
def areEquivalent
    (cfg : Config)
    (t u : Tree)
    (s : σ) : Except CheckFault Bool × σ :=
  match check cfg t u s with
  | (.ok report, s) => (.ok report.equivalent, s)
  | (.error f, s) => (.error f, s)

end Termwise
