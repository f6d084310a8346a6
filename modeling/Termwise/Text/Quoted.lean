import Termwise.Text.Hexadecimal
import Termwise.Text.Printable

/-
  This file defines how a text is quoted in a message.

  The quotation mark is the apostrophe, or the double
  quotation mark for a text that has an apostrophe and no
  double quotation mark.  The mark in use and the backslash
  are escaped, and so is what cannot be printed.

  Key definitions include:
    * `Text.escapeFor`
    * `Text.markFor`
    * `Text.quoted`
-/

namespace Termwise

namespace Text

------------------------------------------------------------
-- Quotation
------------------------------------------------------------

/- A character as it is written between quotation marks. -/
def escapeFor (mark c : Char) : List Char :=
  if c = mark || c = '\\' then ['\\', c]
  else if c = '\t' then ['\\', 't']
  else if c = '\n' then ['\\', 'n']
  else if c = '\r' then ['\\', 'r']
  else if isPrintable c then [c]
  else if c.toNat < 0x100 then
    '\\' :: 'x' :: hexDigits 2 c.toNat
  else if c.toNat < 0x10000 then
    '\\' :: 'u' :: hexDigits 4 c.toNat
  else
    '\\' :: 'U' :: hexDigits 8 c.toNat

/- The quotation mark that a text is put between. -/
def markFor (cs : List Char) : Char :=
  if cs.contains '\'' && !cs.contains '"' then '"' else '\''

/- The characters of a quoted text. -/
def quotedChars (cs : List Char) : List Char :=
  let mark := markFor cs
  mark :: cs.flatMap (escapeFor mark) ++ [mark]

/- A text between quotation marks. -/
def quoted (text : String) : String :=
  String.ofList (quotedChars text.toList)

end Text

end Termwise
