import Termwise.Power

/-
  This file defines how numbers are written in decimal
  digits, and how many digits a written number may have.

  Key definitions include:
    * `Text.isDigit`
    * `Text.numeral`
    * `Text.numeralValue`
    * `Text.integerChars`
    * `Text.grouped?`
    * `Text.digitLimit`
    * `Text.Writable`
    * `Overlong`
    * `Text.writeInteger`
-/

namespace Termwise

namespace Text

------------------------------------------------------------
-- Numerals
------------------------------------------------------------

/- An ASCII digit. -/
def isDigit (c : Char) : Bool :=
  decide ('0' ≤ c) && decide (c ≤ '9')

/- The digits of a natural number, the greatest first. -/
def numeral (n : Nat) : List Char :=
  Nat.toDigits 10 n

/- The number that some ASCII digits are written for. -/
def numeralValue (digits : List Char) : Nat :=
  digits.foldl (fun n c => 10 * n + (c.toNat - '0'.toNat)) 0

/- An integer in digits, after a sign if it is negative. -/
def integerChars : Int → List Char
| .ofNat n => numeral n
| .negSucc n => '-' :: numeral (n + 1)

/- The text of a natural number. -/
def natural (n : Nat) : String :=
  String.ofList (numeral n)

/- The text of an integer. -/
def integer (n : Int) : String :=
  String.ofList (integerChars n)

/-
  Digits of a class without the single underscores that may
  stand between them.
-/
def grouped? (digit : Char → Bool) :
    List Char → Option (List Char)
| [] => none
| [c] => if digit c then some [c] else none
| c :: '_' :: rest =>
    if digit c then (grouped? digit rest).map (c :: ·)
    else none
| c :: rest =>
    if digit c then (grouped? digit rest).map (c :: ·)
    else none

------------------------------------------------------------
-- The Digit Limit
------------------------------------------------------------

/- The greatest number of digits that is read or written. -/
def digitLimit : Nat :=
  4300

/- A natural number has at most as many digits as allowed. -/
def Writable (n : Nat) : Prop :=
  n < tenTo digitLimit

instance (n : Nat) : Decidable (Writable n) :=
  inferInstanceAs (Decidable (n < tenTo digitLimit))

end Text

------------------------------------------------------------
-- Numbers With Too Many Digits
------------------------------------------------------------

/- A number cannot be written, having too many digits. -/
inductive Overlong where
| number
deriving DecidableEq, Repr

/- The wording of the error. -/
def Overlong.message : Overlong → String
| number =>
    "Exceeds the limit (4300 digits) for integer string "
      ++ "conversion; use sys.set_int_max_str_digits() "
      ++ "to increase the limit"

/- Write an integer that has few enough digits. -/
def Text.writeInteger (n : Int) : Except Overlong String :=
  if Writable n.natAbs then .ok (integer n)
  else .error .number

end Termwise
