/-
  This file defines how numbers are written in hexadecimal
  digits and how such digits are read.

  Key definitions include:
    * `Text.hexDigits`
    * `Text.hexValue?`
-/

namespace Termwise

namespace Text

/- The last `width` hexadecimal digits of a number. -/
def hexDigits : Nat → Nat → List Char
| 0, _ => []
| width + 1, n =>
    hexDigits width (n / 16) ++ [Nat.digitChar (n % 16)]

/- The value of a hexadecimal digit, in either case. -/
def hexValue? (c : Char) : Option Nat :=
  if '0' ≤ c ∧ c ≤ '9' then some (c.toNat - '0'.toNat)
  else if 'a' ≤ c ∧ c ≤ 'f' then
    some (c.toNat - 'a'.toNat + 10)
  else if 'A' ≤ c ∧ c ≤ 'F' then
    some (c.toNat - 'A'.toNat + 10)
  else none

end Text

end Termwise
