import Termwise.Json.Mark

/-
  This file defines how the bytes of a JSON text are taken
  for characters.

  The first characters of a JSON text are ASCII, so that
  zero bytes among its first four tell in which form of
  Unicode it is encoded.  Without them it is UTF-8.

  Key definitions include:
    * `Json.WideForm`
    * `Json.WideForm.ofBytes?`
    * `Json.WideForm.pieces?`
    * `Json.charsOfPieces`
    * `Json.encodedChars?`
-/

namespace Termwise

namespace Json

/-
  A form of Unicode whose units are of two or four bytes, and
  the order of the bytes in a unit.
-/
structure WideForm where
  isDouble : Bool
  bigFirst : Bool
deriving DecidableEq, Repr

namespace WideForm

------------------------------------------------------------
-- Telling the Form
------------------------------------------------------------

/- The form of a text of at least four bytes. -/
def ofFour? (a b c d : Nat) : Option WideForm :=
  if a = 0 then
    if b = 0 then some ⟨true, true⟩ else some ⟨false, true⟩
  else if b = 0 then
    if c = 0 ∧ d = 0 then some ⟨true, false⟩
    else some ⟨false, false⟩
  else none

/- The form of a text, unless it is UTF-8. -/
def ofBytes? : List Nat → Option WideForm
| [a, b] =>
    if a = 0 then some ⟨false, true⟩
    else if b = 0 then some ⟨false, false⟩
    else none
| a :: b :: c :: d :: _ => ofFour? a b c d
| _ => none

------------------------------------------------------------
-- Reading Units
------------------------------------------------------------

/- Numbers below a base, two by two as one number each. -/
def paired?
    (base : Nat)
    (bigFirst : Bool) : List Nat → Option (List Nat)
| [] => some []
| [_] => none
| a :: b :: rest =>
    (paired? base bigFirst rest).map fun ns =>
      (if bigFirst then base * a + b else base * b + a) :: ns

/- The characters and halves that units of two bytes are. -/
def ofShortUnits : List Nat → List Piece
| [] => []
| high :: low :: rest =>
    if isHigh high && isLow low then
      .char (pairChar high low) :: ofShortUnits rest
    else
      pieceOf high :: ofShortUnits (low :: rest)
| [n] => [pieceOf n]
where
  pieceOf (n : Nat) : Piece :=
    if isHigh n || isLow n then .unit n
    else .char (Char.ofNat n)

/- The characters and halves that units of four bytes are. -/
def ofLongUnits? (ns : List Nat) : Option (List Piece) :=
  if ns.all fun n => decide (n < 0x110000) then
    some (ns.map ofShortUnits.pieceOf)
  else none

/- The characters and halves of a text in a wide form. -/
def pieces?
    (w : WideForm)
    (bytes : List Nat) : Option (List Piece) := do
  let units ← paired? 0x100 w.bigFirst bytes
  if w.isDouble then
    ofLongUnits? (← paired? 0x10000 w.bigFirst units)
  else return ofShortUnits units

end WideForm

------------------------------------------------------------
-- Characters
------------------------------------------------------------

/- Escapes that make a text broken, wherever they stand. -/
def brokenEscapes : List Char :=
  "\\udfff\\udfff".toList

/-
  The characters that pieces are read as.  Half of a pair
  breaks the text that it stands in.  After a backslash that
  starts an escape it is read as a blank, since it starts
  none that there is.
-/
def charsOfPieces (afterStart : Bool) : List Piece → List Char
| [] => []
| .char c :: rest =>
    c :: charsOfPieces (c == '\\' && !afterStart) rest
| .unit _ :: rest =>
    (if afterStart then [' '] else brokenEscapes)
      ++ charsOfPieces false rest

/- The bytes of a text in UTF-8. -/
def bytesOf (text : String) : List Nat :=
  text.toUTF8.toList.map UInt8.toNat

/-
  The characters of a JSON text that is given by the UTF-8
  form of its bytes.  A mark of the byte order is cut off.
-/
def encodedChars? (text : String) : Option (List Char) :=
  match text.toList with
  | '\ufeff' :: rest => some rest
  | cs =>
      let bytes := bytesOf text
      match WideForm.ofBytes? bytes with
      | none => some cs
      | some w => (w.pieces? bytes).map (charsOfPieces false)

end Json

end Termwise
