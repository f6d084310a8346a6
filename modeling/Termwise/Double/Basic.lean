import Termwise.Power

/-
  This file defines the numbers of the binary64 format, and
  the rounding of rationals to them.

  A finite double is `± mantissa · 2 ^ exponent`.  Rounding
  goes to the nearest double, from the middle to the even
  mantissa, and from beyond the range to an infinity.

  Key definitions include:
    * `Double`
    * `Double.isFinite`
    * `Double.toRat?`
    * `roundDiv`
    * `Double.ofQuotient`
    * `Double.ofRat`
-/

namespace Termwise

/- A number of the binary64 format. -/
inductive Double where
| nan : Double
| infinite : Bool → Double
| finite (negative : Bool) (mantissa : Nat) (exponent : Int)
deriving DecidableEq, Repr

namespace Double

------------------------------------------------------------
-- Values
------------------------------------------------------------

/- A double is neither an infinity nor not a number. -/
def isFinite : Double → Bool
| finite _ _ _ => true
| _ => false

/- The rational value of a mantissa and an exponent. -/
def magnitude (mantissa : Nat) : Int → Rat
| .ofNat e => ((mantissa * twoTo e : Nat) : Rat)
| .negSucc e => mkRat mantissa (twoTo (e + 1))

/- The value of a finite double. -/
def toRat? : Double → Option Rat
| nan => none
| infinite _ => none
| finite negative m e =>
    some (if negative then -magnitude m e else magnitude m e)

------------------------------------------------------------
-- Rounding
------------------------------------------------------------

/- A quotient to the nearest number, the even one of two. -/
def roundDiv (num den : Nat) : Nat :=
  let q := num / den
  let r := num % den
  if 2 * r < den then q
  else if den < 2 * r then q + 1
  else if q % 2 = 0 then q
  else q + 1

/- The multiple of `2 ^ exponent` nearest to a quotient. -/
def roundScaled (num den : Nat) : Int → Nat
| .ofNat e => roundDiv num (den * twoTo e)
| .negSucc e => roundDiv (num * twoTo (e + 1)) den

/- A quotient is at least `2 ^ exponent`. -/
def reaches (num den : Nat) : Int → Bool
| .ofNat e => decide (den * twoTo e ≤ num)
| .negSucc e => decide (den ≤ num * twoTo (e + 1))

/-
  The exponent of the greatest power of two that a positive
  quotient reaches.
-/
def binade (num den : Nat) : Int :=
  let e : Int := (num.log2 : Int) - den.log2
  if reaches num den e then e else e - 1

/-
  The double nearest to `num / den` with a sign.  Rounding
  up may carry into the next power of two.
-/
def ofQuotient (negative : Bool) (num den : Nat) : Double :=
  if num = 0 then finite negative 0 (-1074)
  else
    let e := max (binade num den - 52) (-1074)
    let m := roundScaled num den e
    let (m, e) := if m = twoTo 53 then (twoTo 52, e + 1) else (m, e)
    if 971 < e then infinite negative
    else finite negative m e

/- The double nearest to a rational number. -/
def ofRat (q : Rat) : Double :=
  ofQuotient (decide (q.num < 0)) q.num.natAbs q.den

end Double

end Termwise
