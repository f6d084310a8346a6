import Termwise.Syntax.Token

/-
  This file defines what can be wrong with the text of an
  expression, and the wording of it.

  Key definitions include:
    * `Expected`
    * `SyntaxFault`
    * `SyntaxFault.message`
    * `SyntaxFault.found`
    * `SyntaxFault.position`
    * `SyntaxFault.expected`
-/

namespace Termwise

/- The greatest depth of an expression that is read. -/
def depthLimit : Nat :=
  150

------------------------------------------------------------
-- Expectations
------------------------------------------------------------

/- What would have let the reading go on. -/
inductive Expected where
| operand
| closing
| endOfInput
deriving DecidableEq, Repr

/- How a message names an expectation. -/
def Expected.text : Expected → String
| operand => "an operand"
| closing => "')'"
| endOfInput => "end of input"

------------------------------------------------------------
-- Faults
------------------------------------------------------------

/-
  The fault that ends the reading of an expression.

    * `strayCharacter`: no token starts with the character.
    * `longNumber`: a number with too many digits.
    * `cutShort`: the input ended before what was expected.
    * `noOperand`: the token cannot start an operand.
    * `unclosed`: the token stands where `)` should.
    * `trailing`: the expression was complete before.
    * `nested`: the token opens one level too many.
    * `deep`: the finished tree is too deep.
-/
inductive SyntaxFault where
| strayCharacter : Char → Nat → SyntaxFault
| longNumber : List Char → Nat → SyntaxFault
| cutShort : Expected → SyntaxFault
| noOperand : Token → SyntaxFault
| unclosed : Token → SyntaxFault
| trailing : Token → SyntaxFault
| nested : Token → SyntaxFault
| deep : SyntaxFault
deriving DecidableEq, Repr

namespace SyntaxFault

/- The end of a message that tells a position. -/
def atPosition (n : Nat) : String :=
  " at position " ++ Text.natural n

/- The complaint about too many levels. -/
def tooDeep : String :=
  "Expression nested too deep (limit "
    ++ Text.natural depthLimit ++ ")"

/- The message of a fault. -/
def message : SyntaxFault → String
| strayCharacter c n =>
    "Unexpected character: "
      ++ Text.quoted (String.ofList [c]) ++ atPosition n
| longNumber digits n =>
    "Number literal too long ("
      ++ Text.natural digits.length ++ " digits)"
      ++ atPosition n
| cutShort e =>
    "Unexpected end of input, expected " ++ e.text
| noOperand t =>
    "Unexpected token: " ++ t.lexeme.describe
      ++ atPosition t.position
| unclosed t =>
    "Expected ')', got " ++ t.lexeme.describe
      ++ atPosition t.position
| trailing t =>
    "Unexpected " ++ t.lexeme.describe
      ++ " after expression" ++ atPosition t.position
| nested t => tooDeep ++ atPosition t.position
| deep => tooDeep

/- The text that the fault was found at, if there is one. -/
def found : SyntaxFault → Option String
| strayCharacter c _ => some (String.ofList [c])
| longNumber digits _ => some (String.ofList digits)
| cutShort _ => none
| noOperand t => some t.lexeme.text
| unclosed t => some t.lexeme.text
| trailing t => some t.lexeme.text
| nested t => some t.lexeme.text
| deep => none

/- The position that the fault was found at. -/
def position : SyntaxFault → Option Nat
| strayCharacter _ n => some n
| longNumber _ n => some n
| cutShort _ => none
| noOperand t => some t.position
| unclosed t => some t.position
| trailing t => some t.position
| nested t => some t.position
| deep => none

/- What was expected instead, where one thing was. -/
def expected : SyntaxFault → Option Expected
| strayCharacter _ _ => none
| longNumber _ _ => none
| cutShort e => some e
| noOperand _ => some .operand
| unclosed _ => some .closing
| trailing _ => some .endOfInput
| nested _ => none
| deep => none

end SyntaxFault

end Termwise
