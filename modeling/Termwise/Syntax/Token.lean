import Termwise.Text.Blank
import Termwise.Text.Decimal
import Termwise.Text.Quoted
import Termwise.Tree.Basic

/-
  This file defines the tokens of an expression.

  Key definitions include:
    * `Lexeme`
    * `Lexeme.chars`
    * `Lexeme.describe`
    * `Lexeme.operator?`
    * `Lexeme.symbol?`
    * `Token`
-/

namespace Termwise

------------------------------------------------------------
-- Lexemes
------------------------------------------------------------

/-
  What a token is, apart from its place.  Numbers and names
  are kept as they are written.
-/
inductive Lexeme where
| number : List Char → Lexeme
| name : List Char → Lexeme
| op : Op → Lexeme
| opening : Lexeme
| closing : Lexeme
deriving DecidableEq, Repr

namespace Lexeme

/- The characters that a lexeme is written with. -/
def chars : Lexeme → List Char
| number digits => digits
| name letters => letters
| op o => [o.sign]
| opening => ['(']
| closing => [')']

/- The text of a lexeme. -/
def text (l : Lexeme) : String :=
  String.ofList l.chars

/- How a message refers to a lexeme. -/
def describe : Lexeme → String
| number digits => "number " ++ String.ofList digits
| name letters =>
    "variable " ++ Text.quoted (String.ofList letters)
| op o => Text.quoted (op o).text
| opening => Text.quoted opening.text
| closing => Text.quoted closing.text

/- The operator that a lexeme is the sign of. -/
def operator? : Lexeme → Option Op
| op o => some o
| _ => none

/- The lexeme of a character that stands for itself. -/
def symbol? (c : Char) : Option Lexeme :=
  if c = '+' then some (op .add)
  else if c = '-' then some (op .sub)
  else if c = '*' then some (op .mul)
  else if c = '/' then some (op .div)
  else if c = '(' then some opening
  else if c = ')' then some closing
  else none

end Lexeme

------------------------------------------------------------
-- Tokens
------------------------------------------------------------

/- A lexeme and the number of characters before it. -/
structure Token where
  lexeme : Lexeme
  position : Nat
deriving DecidableEq, Repr

end Termwise
