/-
  This file defines the commands of the program, and the
  flags and operands that each of them takes.

  Key definitions include:
    * `Flag`
    * `Flag.spellings`
    * `Flag.valueName?`
    * `Command`
    * `Command.flags`
    * `Command.operands`
    * `Scope`
-/

namespace Termwise

------------------------------------------------------------
-- Flags
------------------------------------------------------------

/- The flags of all commands. -/
inductive Flag where
| help
| text
| json
| steps
| typeset
| seed
| trials
deriving DecidableEq, Repr

namespace Flag

/- The ways to spell a flag, as they are listed. -/
def spellings : Flag → List String
| help => ["-h", "--help"]
| text => ["--text", "-t"]
| json => ["--json"]
| steps => ["--steps", "-s"]
| typeset => ["--typeset"]
| seed => ["--seed"]
| trials => ["--trials"]

/- The name of the value that a flag takes, if it does. -/
def valueName? : Flag → Option String
| text => some "TEXT"
| seed => some "SEED"
| trials => some "N"
| _ => none

/- A flag takes a value. -/
def takesValue (f : Flag) : Bool :=
  f.valueName?.isSome

/- How complaints refer to a flag. -/
def label (f : Flag) : String :=
  String.intercalate "/" f.spellings

/- A spelling of a flag with its value. -/
def withValue (f : Flag) (spelling : String) : String :=
  match f.valueName? with
  | none => spelling
  | some value => spelling ++ " " ++ value

end Flag

------------------------------------------------------------
-- Commands
------------------------------------------------------------

/- The commands of the program. -/
inductive Command where
| parse
| eval
| render
| equiv
deriving DecidableEq, Repr

namespace Command

/- All commands in the order in which they are listed. -/
def all : List Command :=
  [parse, eval, render, equiv]

/- The word that stands for a command. -/
def word : Command → String
| parse => "parse"
| eval => "eval"
| render => "render"
| equiv => "equiv"

/- The command that a word stands for. -/
def ofWord? (s : String) : Option Command :=
  all.find? fun c => c.word == s

/- The flags of a command in the order of the help. -/
def flags : Command → List Flag
| parse => [.help, .text, .json]
| eval => [.help, .text, .steps]
| render => [.help, .text, .typeset]
| equiv => [.help, .seed, .trials]

/- The operands of a command. -/
def operands : Command → List String
| equiv => ["expr1", "expr2"]
| _ => []

end Command

------------------------------------------------------------
-- Scopes
------------------------------------------------------------

/-
  Whose flags and operands are meant: those of the program
  itself, before a command, or those of a command.
-/
inductive Scope where
| program
| command : Command → Scope
deriving DecidableEq, Repr

namespace Scope

/- The flags that may stand in a scope. -/
def flags : Scope → List Flag
| program => [.help]
| command c => c.flags

/- The name of a scope. -/
def name : Scope → String
| program => "algebra"
| command c => "algebra " ++ c.word

end Scope

end Termwise
