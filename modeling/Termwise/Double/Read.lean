import Termwise.Double.Basic
import Termwise.Text.Decimal

/-
  This file defines how decimal texts are read as doubles.

  Key definitions include:
    * `Double.ofDecimal`
    * `Scientific`
    * `Scientific.scan?`
    * `Scientific.toDouble`
    * `Double.read?`
-/

namespace Termwise

namespace Double

/-
  The double nearest to `± units · 10 ^ exponent`.  Numbers
  far outside the range are decided by their size alone, so
  that no power of ten grows out of hand.
-/
def ofDecimal
    (negative : Bool)
    (units : Nat)
    (exponent : Int) : Double :=
  let size : Int := (Text.numeral units).length + exponent
  if units = 0 then finite negative 0 (-1074)
  else if 310 < size then infinite negative
  else if size < -330 then finite negative 0 (-1074)
  else
    match exponent with
    | .ofNat e => ofQuotient negative (units * tenTo e) 1
    | .negSucc e => ofQuotient negative units (tenTo (e + 1))

end Double

------------------------------------------------------------
-- Scientific Notation
------------------------------------------------------------

/- The parts of a number without its sign. -/
structure Scientific where
  whole : List Char
  fraction : List Char
  exponent : Int
deriving DecidableEq, Repr

namespace Scientific

/- Cut an exponent off the front of a text, if one is there. -/
def scanExponent?
    (cs : List Char) : Option (Int × List Char) :=
  match cs with
  | [] => some (0, [])
  | c :: rest =>
      if c = 'e' ∨ c = 'E' then
        let (negative, rest) :=
          match rest with
          | '-' :: rest => (true, rest)
          | '+' :: rest => (false, rest)
          | rest => (false, rest)
        let digits := rest.takeWhile Text.isDigit
        if digits.isEmpty then none
        else
          let n : Int := Text.numeralValue digits
          some (if negative then -n else n,
            rest.dropWhile Text.isDigit)
      else
        some (0, cs)

/-
  Read a number in scientific notation that makes up a whole
  text.  There has to be a digit before or after the point.
-/
def scan? (cs : List Char) : Option Scientific :=
  let whole := cs.takeWhile Text.isDigit
  let rest := cs.dropWhile Text.isDigit
  let (fraction, rest) :=
    match rest with
    | '.' :: rest =>
        (rest.takeWhile Text.isDigit,
          rest.dropWhile Text.isDigit)
    | rest => ([], rest)
  if whole.isEmpty && fraction.isEmpty then none
  else
    match scanExponent? rest with
    | some (e, []) => some ⟨whole, fraction, e⟩
    | _ => none

/- The double nearest to a number with a sign. -/
def toDouble (negative : Bool) (s : Scientific) : Double :=
  Double.ofDecimal negative
    (Text.numeralValue (s.whole ++ s.fraction))
    (s.exponent - s.fraction.length)

end Scientific

------------------------------------------------------------
-- Reading Doubles
------------------------------------------------------------

namespace Double

/- The lower case form of an ASCII text. -/
def lowered (cs : List Char) : String :=
  String.ofList (cs.map Char.toLower)

/- Read a double without its sign. -/
def readUnsigned?
    (negative : Bool)
    (cs : List Char) : Option Double :=
  let word := lowered cs
  if word = "inf" ∨ word = "infinity" then
    some (infinite negative)
  else if word = "nan" then some nan
  else (Scientific.scan? cs).map (·.toDouble negative)

/-
  Read a text as a double: a number in scientific notation,
  an infinity or not a number, after an optional sign.
-/
def read? (cs : List Char) : Option Double :=
  match cs with
  | '-' :: rest => readUnsigned? true rest
  | '+' :: rest => readUnsigned? false rest
  | rest => readUnsigned? false rest

end Double

end Termwise
