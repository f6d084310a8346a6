import Termwise.Text.Blank
import Termwise.Text.Decimal
import Termwise.Text.Digit

/-
  This file defines how the integers of a command line are
  read.  The digits may be those of any script, with single
  underscores between them, and white space may surround the
  number.

  Key definitions include:
    * `CommandLine.readNatural?`
    * `CommandLine.readInteger?`
-/

namespace Termwise

namespace CommandLine

/- The natural number that some characters are written for. -/
def readNatural? (cs : List Char) : Option Nat :=
  match Text.grouped? Text.isAnyDigit cs with
  | none => none
  | some digits =>
      if digits.length ≤ Text.digitLimit then
        some (Text.anyNumeralValue digits)
      else none

/- The integer that a text is written for. -/
def readInteger? (s : String) : Option Int :=
  match Text.trim Text.isSpacing s.toList with
  | '-' :: cs => (readNatural? cs).map fun n => -(n : Int)
  | '+' :: cs => (readNatural? cs).map fun n => (n : Int)
  | cs => (readNatural? cs).map fun n => (n : Int)

end CommandLine

end Termwise
