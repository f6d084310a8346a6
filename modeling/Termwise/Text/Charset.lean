/-
  This file defines the character sets that an output can
  have, and what becomes of a text in one of them.

  Key definitions include:
    * `Text.Charset`
    * `Text.Charset.holds`
    * `Text.Charset.fit`
-/

namespace Termwise

namespace Text

/- A character set. -/
inductive Charset where
| ascii
| latin1
| unicode
deriving DecidableEq, Repr

namespace Charset

/- The name that a character set is known by. -/
def name : Charset → String
| ascii => "ascii"
| latin1 => "latin-1"
| unicode => "utf-8"

/- The character set with a name. -/
def ofName? (s : String) : Option Charset :=
  [ascii, latin1, unicode].find? fun e => e.name == s

/- A character belongs to a set. -/
def holds : Charset → Char → Bool
| ascii, c => decide (c.toNat < 0x80)
| latin1, c => decide (c.toNat < 0x100)
| unicode, _ => true

/- A text with a question mark for what is not in a set. -/
def fit (e : Charset) (text : String) : String :=
  String.ofList
    (text.toList.map fun c => if e.holds c then c else '?')

end Charset

end Text

end Termwise
