import Termwise.CommandLine.Command
import Termwise.Text.Quoted

/-
  This file defines what can be wrong with a command line.

  Key definitions include:
    * `Complaint`
    * `Complaint.message`
-/

namespace Termwise

/-
  What is wrong with a command line.

    * `noValue`: a flag stands without its value.
    * `unwanted`: a flag has a value that it does not take.
    * `notInteger`: the value of a flag is no integer.
    * `ambiguous`: a word can be short for several spellings.
    * `absent`: operands or the command are not given.
    * `unknown`: words that stand for nothing.
    * `noCommand`: a word where a command should stand.
-/
inductive Complaint where
| noValue : Flag → Complaint
| unwanted : Flag → List Char → Complaint
| notInteger : Flag → String → Complaint
| ambiguous : String → List String → Complaint
| absent : List String → Complaint
| unknown : List String → Complaint
| noCommand : String → Complaint
deriving DecidableEq, Repr

namespace Complaint

/- The start of a complaint about an argument. -/
def about (name : String) : String :=
  "argument " ++ name ++ ": "

/- The names of the commands as a complaint lists them. -/
def choices : String :=
  String.intercalate ", "
    (Command.all.map fun c => Text.quoted c.word)

/- The wording of a complaint. -/
def message : Complaint → String
| noValue f => about f.label ++ "expected one argument"
| unwanted f value =>
    about f.label ++ "ignored explicit argument "
      ++ Text.quoted (String.ofList value)
| notInteger f value =>
    about f.label ++ "invalid int value: " ++ Text.quoted value
| ambiguous word spellings =>
    "ambiguous option: " ++ word ++ " could match "
      ++ String.intercalate ", " spellings
| absent names =>
    "the following arguments are required: "
      ++ String.intercalate ", " names
| unknown words =>
    "unrecognized arguments: " ++ String.intercalate " " words
| noCommand word =>
    about "command" ++ "invalid choice: " ++ Text.quoted word
      ++ " (choose from " ++ choices ++ ")"

end Complaint

end Termwise
