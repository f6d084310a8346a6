import Termwise.Double.Basic
import Termwise.Text.Decimal

/-
  This file defines the shortest decimal text of a double:
  the fewest digits that are nearer to it than to any other
  double, and of those the nearest to its value.

  The decimals that read back as a double form an interval
  around it.  With a given number of digits only the two
  neighbours of the value need to be tried, since if any
  decimal with that many digits lies in the interval, one
  of the neighbours does.

  Key definitions include:
    * `Double.Span`
    * `Double.span`
    * `Double.decade`
    * `Double.shortest`
    * `Double.text`
-/

namespace Termwise

namespace Double

------------------------------------------------------------
-- The Interval of a Double
------------------------------------------------------------

/-
  The numbers that round to a double, all in quarters of the
  gap above it and over one denominator: the double itself,
  the ends of the interval, and if the ends belong to it.
-/
structure Span where
  low : Nat
  value : Nat
  high : Nat
  den : Nat
  closed : Bool
deriving DecidableEq, Repr

/-
  The interval of `mantissa · 2 ^ exponent`.  Below a power
  of two the gap is half as wide.
-/
def span (mantissa : Nat) (exponent : Int) : Span :=
  let below :=
    if mantissa = twoTo 52 ∧ exponent ≠ -1074 then 1 else 2
  let scale (n : Nat) : Nat :=
    match exponent with
    | .ofNat e => n * twoTo e
    | .negSucc _ => n
  { low := scale (4 * mantissa - below)
    value := scale (4 * mantissa)
    high := scale (4 * mantissa + 2)
    den :=
      match exponent with
      | .ofNat _ => 4
      | .negSucc e => 4 * twoTo (e + 1)
    closed := mantissa % 2 == 0 }

/- A quotient lies in an interval. -/
def Span.contains (s : Span) (num den : Nat) : Bool :=
  if s.closed then
    decide (s.low * den ≤ num * s.den) &&
      decide (num * s.den ≤ s.high * den)
  else
    decide (s.low * den < num * s.den) &&
      decide (num * s.den < s.high * den)

------------------------------------------------------------
-- Decimals
------------------------------------------------------------

/-
  The exponent of the greatest power of ten that a positive
  quotient reaches.
-/
def decade (num den : Nat) : Int :=
  if den ≤ num then
    ((Text.numeral (num / den)).length : Int) - 1
  else
    let n := (Text.numeral (den / num)).length
    if den ≤ num * tenTo (n - 1) then 1 - (n : Int)
    else -(n : Int)

/- A number of units of a power of ten. -/
structure Decimal where
  units : Nat
  exponent : Int
deriving DecidableEq, Repr

namespace Decimal

/- The numerator of a decimal over its denominator. -/
def num (d : Decimal) : Nat :=
  match d.exponent with
  | .ofNat e => d.units * tenTo e
  | .negSucc _ => d.units

/- The denominator of a decimal. -/
def den (d : Decimal) : Nat :=
  match d.exponent with
  | .ofNat _ => 1
  | .negSucc e => tenTo (e + 1)

end Decimal

/- The units of a power of ten below or at a quotient. -/
def unitsBelow (num den : Nat) : Int → Nat
| .ofNat e => num / (den * tenTo e)
| .negSucc e => num * tenTo (e + 1) / den

/-
  Of the two multiples of `10 ^ exponent` around the double
  take one that reads back: the nearer one if both do, and
  the even one of two that are equally near.
-/
def Span.nearest?
    (s : Span)
    (exponent : Int) : Option Decimal :=
  let units := unitsBelow s.value s.den exponent
  let lower : Decimal := ⟨units, exponent⟩
  let upper : Decimal := ⟨units + 1, exponent⟩
  match s.contains lower.num lower.den,
      s.contains upper.num upper.den with
  | false, false => none
  | true, false => some lower
  | false, true => some upper
  | true, true =>
      let twice := 2 * s.value * lower.den
      let sum := (lower.num + upper.num) * s.den
      if twice < sum then some lower
      else if sum < twice then some upper
      else if units % 2 = 0 then some lower
      else some upper

/-
  Try ever smaller powers of ten.  Seventeen digits are
  always enough.
-/
def Span.search
    (s : Span) : Nat → Int → Option Decimal
| 0, _ => none
| tries + 1, exponent =>
    match s.nearest? exponent with
    | some d => some d
    | none => s.search tries (exponent - 1)

/- The shortest decimal of a positive finite double. -/
def shortest (mantissa : Nat) (exponent : Int) : Decimal :=
  let s := span mantissa exponent
  let top := decade s.value s.den
  match s.search 17 top with
  | some d => d
  | none => ⟨0, 0⟩

------------------------------------------------------------
-- Text
------------------------------------------------------------

/- Digits without the zeros at their end. -/
def withoutTrailingZeros (digits : List Char) : List Char :=
  (digits.reverse.dropWhile (· == '0')).reverse

/- An exponent of ten, with a sign and at least two digits. -/
def exponentChars (e : Int) : List Char :=
  let digits := Text.numeral e.natAbs
  let padded :=
    if digits.length < 2 then '0' :: digits else digits
  ['e', if e < 0 then '-' else '+'] ++ padded

/-
  Digits with their decimal point.  The first digit counts
  `10 ^ top`; from `10 ^ -4` up to but without `10 ^ 16` the
  number is written in full, with at least one digit on
  either side of the point.
-/
def layout (digits : List Char) (top : Int) : List Char :=
  if -4 ≤ top ∧ top < 16 then
    match top with
    | .ofNat n =>
        let whole :=
          digits.take (n + 1)
            ++ List.replicate (n + 1 - digits.length) '0'
        let rest := digits.drop (n + 1)
        whole ++ ['.'] ++ if rest.isEmpty then ['0'] else rest
    | .negSucc n =>
        ['0', '.'] ++ List.replicate n '0' ++ digits
  else
    match digits with
    | [] => []
    | [d] => d :: exponentChars top
    | d :: rest => d :: '.' :: rest ++ exponentChars top

/- The characters of a positive or zero finite double. -/
def magnitudeChars (m : Nat) (e : Int) : List Char :=
  if m = 0 then ['0', '.', '0']
  else
    let d := shortest m e
    let all := Text.numeral d.units
    layout (withoutTrailingZeros all)
      (d.exponent + all.length - 1)

/- The text of a double. -/
def text : Double → String
| nan => "nan"
| infinite true => "-inf"
| infinite false => "inf"
| finite true m e => String.ofList ('-' :: magnitudeChars m e)
| finite false m e => String.ofList (magnitudeChars m e)

end Double

end Termwise
