import Termwise.CommandLine.Help
import Termwise.CommandLine.Order
import Termwise.CommandLine.Table
import Termwise.Log
import Termwise.Print.Typeset
import Termwise.Schema.TreeForm
import Termwise.Settings

/-
  This file defines what a run of the program does: what it
  writes and how it ends, from its command line, its input,
  its environment and the console that its tables are shown
  on.

  Key definitions include:
    * `Failure`
    * `Failure.message`
    * `Ending`
    * `Transcript`
    * `CommandLine.sourceText`
    * `CommandLine.runCommand`
    * `CommandLine.runOn`
    * `CommandLine.runProgram`
-/

namespace Termwise

------------------------------------------------------------
-- Transcripts
------------------------------------------------------------

/- A failure that a run does not answer for. -/
inductive Failure where
| settings : List Issue → Failure
| level : String → Failure
| overlong : Overlong → Failure
| check : CheckFault → Failure
| noText : Failure
| noNumber : Flag → Failure
deriving Repr

namespace Failure

/- An issue in words, after the way to it. -/
def issueText (i : Issue) : String :=
  String.intercalate "." i.place ++ ": " ++ i.kind.message

/- The wording of a failure. -/
def message : Failure → String
| settings issues =>
    String.intercalate "\n" (issues.map issueText)
| level name => "Unknown level: " ++ Text.quoted name
| overlong e => e.message
| check f => f.message
| noText => "expected string or bytes-like object, got 'list'"
| noNumber .trials =>
    "'<' not supported between instances of 'list' and 'int'"
| noNumber _ =>
    "The only supported seed types are: None,\n"
      ++ "int, float, str, bytes, and bytearray."

end Failure

/- How a run ends. -/
inductive Ending where
| exit : Nat → Ending
| failed : Failure → Ending
deriving Repr

/- What a run writes to its outputs, and how it ends. -/
structure Transcript where
  out : List String
  err : List String
  ending : Ending
deriving Repr

namespace Transcript

/- A run that writes some lines and ends well. -/
def shows (lines : List String) : Transcript :=
  ⟨lines, [], .exit 0⟩

/- A run that ends with a complaint. -/
def complains (code : Nat) (lines : List String) : Transcript :=
  ⟨[], lines, .exit code⟩

/- A run that fails. -/
def fails (f : Failure) : Transcript :=
  ⟨[], [], .failed f⟩

/- The same run after some lines of the log. -/
def after (lines : List String) (t : Transcript) : Transcript :=
  ⟨t.out, lines ++ t.err, t.ending⟩

/- Lines as they are written. -/
def written (lines : List String) : String :=
  String.join (lines.map fun s => s ++ "\n")

end Transcript

namespace CommandLine

------------------------------------------------------------
-- Reading Expressions
------------------------------------------------------------

/-
  The text of the expression: the one that is given unless
  that is empty, or the input without the blanks around it.
-/
def sourceText
    (given : Option String)
    (input : String) : Option String :=
  match given with
  | some text =>
      if text.isEmpty then ofInput else some text
  | none => ofInput
where
  ofInput : Option String :=
    match Text.trim Text.isBlank input.toList with
    | [] => none
    | cs => some (String.ofList cs)

/- An order that takes its expression from the input. -/
def readsInput : Order → Bool
| .command .equiv _ => false
| .command _ g => (g.text.getD "").isEmpty
| _ => false

/- The complaint about a missing expression. -/
def noExpression : Transcript :=
  .complains 1 ["Błąd: podaj wyrażenie przez --text lub stdin"]

/- Read an expression and go on with it. -/
def withTree
    (least : Nat)
    (text : String)
    (next : Tree → Transcript) : Transcript :=
  match parse text with
  | .error f => .complains 1 ["Błąd składni: " ++ f.message]
  | .ok t =>
      (next t).after (LogRecord.shownFrom least [.ofParsed text])

/- Show lines, unless a number in them is too long. -/
def showing (lines : Except Overlong (List String)) :
    Transcript :=
  match lines with
  | .ok lines => .shows lines
  | .error e => .fails (.overlong e)

------------------------------------------------------------
-- Commands
------------------------------------------------------------

/- Show a tree as it was read. -/
def parseTree
    (console : Console)
    (json : Bool)
    (t : Tree) : Transcript :=
  if json then .shows [t.toJson.write .indented]
  else
    showing do
      let infixForm ← t.toInfix
      return console.lines
        (.pairs "Parsed"
          [("infix", infixForm),
           ("tree", t.toJson.write .compact)])

/- The table of the steps of a reduction. -/
def stepsTable (steps : List String) : Table :=
  .numbered
    ("Steps [" ++ Text.natural steps.length ++ "]")
    "Reduction" steps

/- Show a tree and what it reduces to. -/
def evalTree
    (console : Console)
    (least : Nat)
    (steps : Bool)
    (t : Tree) : Transcript :=
  match t.trace with
  | .error e => .fails (.overlong e)
  | .ok r =>
      (showing do
        let input ← t.toInfix
        let result ← r.result.toInfix
        let typeset ← r.result.toTypeset
        let shown := console.lines
          (.pairs "Evaluation"
            [("input", input), ("result", result),
             ("typeset", typeset)])
        return if steps then
            shown ++ console.lines (stepsTable r.steps)
          else shown).after
        (LogRecord.shownFrom least [.ofTrace t r])

/- Show a tree in one of its forms. -/
def renderTree (typeset : Bool) (t : Tree) : Transcript :=
  showing do
    let form ← if typeset then t.toTypeset else t.toInfix
    return [form]

/- A text, or a hyphen for an empty one. -/
def orHyphen (s : String) : String :=
  if s.isEmpty then "-" else s

/- An assignment as the table of a check shows it. -/
def assignmentCell (a : Assignment) : String :=
  orHyphen
    (Json.commaSeparated
      (a.map fun (x, n) => x ++ "=" ++ Text.integer n))

/- The rows about a counterexample. -/
def counterexampleRows (c : Counterexample) :
    List (String × String) :=
  [("counterexample", assignmentCell c.assignment),
   ("values", c.left.text ++ " vs " ++ c.right.text)]

/- The rows of the table of a check. -/
def reportRows (r : Report) : List (String × String) :=
  [("equivalent", if r.equivalent then "yes" else "no"),
   ("variables", orHyphen (Json.commaSeparated r.names)),
   ("trials run", Text.natural r.trialsRun),
   ("trials skipped", Text.natural r.trialsSkipped)]
    ++ (r.counterexample.map counterexampleRows).getD []

/- The table of a check. -/
def reportTable (r : Report) : Table :=
  .pairs "Equivalence" (reportRows r)

/- The code that a run ends with after a check. -/
def exitCode (r : Report) : Nat :=
  if r.equivalent then 0 else 2

/- Show what a check found. -/
def showRun
    (console : Console)
    (least : Nat)
    (run : Run) : Transcript :=
  ⟨console.lines (reportTable run.report),
    LogRecord.shownFrom least (LogRecord.ofRun run),
    .exit (exitCode run.report)⟩

/- Check two trees. -/
def equivTrees
    (console : Console)
    (least : Nat)
    (cfg : Config)
    (source : Twister)
    (t u : Tree) : Transcript :=
  match (checkRun cfg t u source).1 with
  | .error f => .fails (.check f)
  | .ok run => showRun console least run

/- Go on with the settings of a check, if they make sense. -/
def withConfig
    (config : Except ConfigFault Config)
    (next : Config → Transcript) : Transcript :=
  match config with
  | .error f =>
      .complains 1 ["Błąd konfiguracji: " ++ f.message]
  | .ok cfg => next cfg

/- Go on with the number that a flag may have been given. -/
def withNumber
    (f : Flag)
    (given : Option (Option Int))
    (next : Option Int → Transcript) : Transcript :=
  match given with
  | none => next none
  | some (some n) => next (some n)
  | some none => .fails (.noNumber f)

/- Read an operand and go on with it. -/
def withOperand
    (least : Nat)
    (operand : Option String)
    (next : Tree → Transcript) : Transcript :=
  match operand with
  | none => .fails .noText
  | some text => withTree least text next

/-
  Check the expressions that are given as operands.  The
  number of trials is looked at before the seed.
-/
def runEquiv
    (console : Console)
    (s : Settings)
    (least : Nat)
    (fresh : Twister)
    (g : Given) : Transcript :=
  withOperand least (g.operands.getD 0 none) fun t =>
    withOperand least (g.operands.getD 1 none) fun u =>
      withNumber .trials g.trials fun trials =>
        withConfig (s.config trials) fun cfg =>
          withNumber .seed g.seed fun seed =>
            equivTrees console least cfg
              (s.source seed fresh) t u

/- Read the expression of a command and go on with it. -/
def withSource
    (least : Nat)
    (g : Given)
    (input : String)
    (next : Tree → Transcript) : Transcript :=
  match sourceText g.text input with
  | none => noExpression
  | some text => withTree least text next

/- Do what a command is given to do. -/
def runCommand
    (console : Console)
    (s : Settings)
    (least : Nat)
    (fresh : Twister)
    (input : String)
    (g : Given) : Command → Transcript
| .parse =>
    withSource least g input (parseTree console g.json)
| .eval =>
    withSource least g input (evalTree console least g.steps)
| .render => withSource least g input (renderTree g.typeset)
| .equiv => runEquiv console s least fresh g

------------------------------------------------------------
-- Runs
------------------------------------------------------------

/- Do what an order asks for. -/
def runOrder
    (console : Console)
    (s : Settings)
    (least : Nat)
    (fresh : Twister)
    (input : String) : Order → Transcript
| .help scope => .shows scope.help
| .refused scope complaint =>
    .complains 2
      [scope.usage,
       scope.name ++ ": error: " ++ complaint.message]
| .command c g => runCommand console s least fresh input g c

/- A run of the program with settings that were read. -/
def runWith
    (console : Console)
    (s : Settings)
    (fresh : Twister)
    (words : List String)
    (input : String) : Transcript :=
  let level := Text.capitals s.logLevel
  match LogLevel.threshold? level with
  | none => .fails (.level level)
  | some least =>
      runOrder console s least fresh input (Order.read words)

/-
  A run of the program on a console.  The settings are read
  before the command line, and the level of the log is looked
  up before anything else is done.
-/
def runOn
    (console : Console)
    (env : List (String × String))
    (fresh : Twister)
    (words : List String)
    (input : String) : Transcript :=
  match Settings.read [] env with
  | .error issues => .fails (.settings issues)
  | .ok s => runWith console s fresh words input

/- A run of the program on a console that is wide. -/
def runProgram
    (env : List (String × String))
    (fresh : Twister)
    (words : List String)
    (input : String) : Transcript :=
  runOn .wide env fresh words input

end CommandLine

end Termwise
