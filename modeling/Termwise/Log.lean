import Termwise.Equivalence.Check
import Termwise.Json.Basic
import Termwise.Syntax.Parse
import Termwise.Text.Capital

/-
  This file defines the records that are kept while
  expressions are read, reduced and checked, and which of
  them are shown.

  Key definitions include:
    * `LogLevel`
    * `LogLevel.threshold?`
    * `LogRecord`
    * `LogRecord.line`
    * `LogRecord.shownFrom`
    * `LogRecord.ofParsed`
    * `LogRecord.ofTrace`
    * `LogRecord.ofRun`
-/

namespace Termwise

------------------------------------------------------------
-- Levels
------------------------------------------------------------

/- How much a record matters. -/
inductive LogLevel where
| debug
| info
| warning
deriving DecidableEq, Repr

namespace LogLevel

/- The name of a level. -/
def name : LogLevel → String
| debug => "DEBUG"
| info => "INFO"
| warning => "WARNING"

/- The rank of a level; what matters more ranks higher. -/
def rank : LogLevel → Nat
| debug => 10
| info => 20
| warning => 30

/- The least rank that is shown, by the name of a level. -/
def thresholds : List (String × Nat) :=
  [("CRITICAL", 50), ("FATAL", 50), ("ERROR", 40),
   ("WARN", 30), ("WARNING", 30), ("INFO", 20),
   ("DEBUG", 10), ("NOTSET", 0)]

/- The least rank that is shown at a named level. -/
def threshold? (name : String) : Option Nat :=
  thresholds.lookup name

end LogLevel

------------------------------------------------------------
-- Records
------------------------------------------------------------

/- The parts of the program that keep records. -/
inductive LogSource where
| parser
| evaluator
| equivalence
deriving DecidableEq, Repr

/- The name that a part keeps its records under. -/
def LogSource.name : LogSource → String
| parser => "algebra_engine.parser"
| evaluator => "algebra_engine.evaluator"
| equivalence => "algebra_engine.equivalence"

/- A record. -/
structure LogRecord where
  level : LogLevel
  source : LogSource
  message : String
deriving DecidableEq, Repr

namespace LogRecord

/- The line that shows a record. -/
def line (r : LogRecord) : String :=
  r.level.name ++ ":" ++ r.source.name ++ ":" ++ r.message

/- The lines of the records that reach a rank. -/
def shownFrom
    (least : Nat)
    (records : List LogRecord) : List String :=
  (records.filter fun r => decide (least ≤ r.level.rank)).map
    line

------------------------------------------------------------
-- Records of Parts
------------------------------------------------------------

/- The record of a text that was read. -/
def ofParsed (text : String) : LogRecord :=
  let count :=
    match tokens text with
    | .ok ts => ts.length
    | .error _ => 0
  ⟨.debug, .parser,
    "Parsed " ++ Text.quoted text ++ " into "
      ++ Text.natural count ++ " tokens."⟩

/- The record of a reduction. -/
def ofTrace (t : Tree) (r : Tree.Trace) : LogRecord :=
  ⟨.debug, .evaluator,
    "Reduced " ++ String.ofList t.infixChars ++ " to "
      ++ String.ofList r.result.infixChars ++ " in "
      ++ Text.natural r.steps.length ++ " steps."⟩

/- How a record shows an assignment. -/
def assignmentText (a : Assignment) : String :=
  (Json.object (a.map fun (x, n) => (x, .int n))).shown

/- The record of a trial without a value. -/
def ofSkip (trial : Nat) (a : Assignment) : LogRecord :=
  ⟨.debug, .equivalence,
    "Trial " ++ Text.natural trial
      ++ " skipped (undefined value) for "
      ++ assignmentText a ++ "."⟩

/- The record of a counterexample. -/
def ofCounterexample
    (trial : Nat)
    (c : Counterexample) : LogRecord :=
  ⟨.info, .equivalence,
    "Counterexample in trial " ++ Text.natural trial ++ ": "
      ++ assignmentText c.assignment ++ " gives "
      ++ c.left.text ++ " vs " ++ c.right.text ++ "."⟩

/- The record of a check whose trials all had no value. -/
def ofUndefined (trials : Nat) : LogRecord :=
  ⟨.warning, .equivalence,
    "All " ++ Text.natural trials ++ " trials were undefined; "
      ++ "equivalence not disproved."⟩

/- The record of how a check ended, if there is one. -/
def ofEnd (r : Report) : List LogRecord :=
  match r.counterexample with
  | some c => [ofCounterexample r.trialsRun c]
  | none =>
      if r.trialsSkipped = r.trialsRun then
        [ofUndefined r.trialsRun]
      else []

/- The records of a check. -/
def ofRun (run : Run) : List LogRecord :=
  run.skips.reverse.map (fun (n, a) => ofSkip n a)
    ++ ofEnd run.report

end LogRecord

end Termwise
