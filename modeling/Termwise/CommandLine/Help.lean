import Termwise.CommandLine.Command

/-
  This file defines the usage and the help of the program
  and of its commands.

  Key definitions include:
    * `Scope.usage`
    * `Scope.help`
-/

namespace Termwise

------------------------------------------------------------
-- Purposes
------------------------------------------------------------

/- What a flag is for, where the help tells it. -/
def Flag.purpose : Flag → String
| help => "show this help message and exit"
| text => "Wyrażenie (lub stdin)"
| json => "Drzewo jako JSON"
| steps => "Pokaż kroki redukcji"
| typeset => "Zapis LaTeX"
| seed => ""
| trials => ""

/- What a command is for. -/
def Command.purpose : Command → String
| parse => "Sparsuj wyrażenie"
| eval => "Zredukuj wyrażenie do postaci normalnej"
| render => "Wyrenderuj wyrażenie"
| equiv => "Sprawdź równoważność dwóch wyrażeń"

namespace Scope

------------------------------------------------------------
-- Usage
------------------------------------------------------------

/- The commands between braces. -/
def commandList : String :=
  "\x7b" ++ String.intercalate "," (Command.all.map Command.word)
    ++ "\x7d"

/- A flag as the usage shows it. -/
def usageOf (f : Flag) : String :=
  "[" ++ f.withValue (f.spellings.headD "") ++ "]"

/- What stands after the flags in the usage. -/
def usageOperands : Scope → List String
| program => [commandList, "..."]
| command c => c.operands

/- The usage of a scope. -/
def usage (s : Scope) : String :=
  String.intercalate " "
    (["usage:", s.name] ++ s.flags.map usageOf
      ++ s.usageOperands)

------------------------------------------------------------
-- Help
------------------------------------------------------------

/- An entry of the help: its indent, its name, its purpose. -/
structure Entry where
  indent : Nat
  name : String
  purpose : String
deriving DecidableEq, Repr

/- The entry of a flag. -/
def flagEntry (f : Flag) : Entry :=
  ⟨2, String.intercalate ", " (f.spellings.map f.withValue),
    f.purpose⟩

/- The entries of what is not a flag. -/
def operandEntries : Scope → List Entry
| program =>
    ⟨2, commandList, ""⟩
      :: Command.all.map fun c => ⟨4, c.word, c.purpose⟩
| command c => c.operands.map fun x => ⟨2, x, ""⟩

/- The entries of the flags. -/
def flagEntries (s : Scope) : List Entry :=
  s.flags.map flagEntry

/-
  The column of the purposes: two blanks after the longest
  entry, and never beyond column 24.
-/
def purposeColumn (entries : List Entry) : Nat :=
  min 24
    (entries.foldl (fun n e =>
      max n (e.indent + e.name.length + 2)) 0)

/- The line of an entry. -/
def entryLine (column : Nat) (e : Entry) : String :=
  let start :=
    String.ofList (List.replicate e.indent ' ') ++ e.name
  if e.purpose.isEmpty then start
  else
    start
      ++ String.ofList
        (List.replicate (column - start.length) ' ')
      ++ e.purpose

/- Some entries under a heading, if there are any. -/
def part
    (column : Nat)
    (heading : String)
    (entries : List Entry) : List String :=
  if entries.isEmpty then []
  else "" :: heading :: entries.map (entryLine column)

/- The description of the program. -/
def description : Scope → List String
| program => ["", "AlgebraEngine: CLI (lokalny, bez serwera API)"]
| command _ => []

/- The lines of the help. -/
def help (s : Scope) : List String :=
  let column := purposeColumn (s.operandEntries ++ s.flagEntries)
  [s.usage] ++ s.description
    ++ part column "positional arguments:" s.operandEntries
    ++ part column "options:" s.flagEntries

end Scope

end Termwise
