import Termwise.Json.Basic
import Termwise.Double.Read
import Termwise.Schema.Issue
import Termwise.Text.Blank

/-
  This file defines how JSON values are taken for integers,
  texts, doubles and truth values.  A value of another kind
  is taken where nothing is lost by it, and otherwise one
  thing is wrong with it.

  Key definitions include:
    * `Taken`
    * `Scalar.plainForm?`
    * `Scalar.integer`
    * `Scalar.integerAtLeast`
    * `Scalar.integerBetween`
    * `Scalar.text`
    * `Scalar.textUpTo`
    * `Scalar.double`
    * `Scalar.truth`
    * `Scalar.optional`
-/

namespace Termwise

/- A value, or what is wrong with what was given for it. -/
abbrev Taken (α : Type) :=
  Except IssueKind α

namespace Scalar

------------------------------------------------------------
-- Underscores
------------------------------------------------------------

/- A text without underscores, if they stand alone inside. -/
def ungrouped? (cs : List Char) : Option (List Char) :=
  if cs.head? = some '_' ∨ cs.getLast? = some '_' then none
  else if (cs.zip cs.tail).contains ('_', '_') then none
  else some (cs.filter (· != '_'))

------------------------------------------------------------
-- Integers
------------------------------------------------------------

/- A sign that a text starts with, and what follows it. -/
def splitSign : List Char → List Char × List Char
| '-' :: rest => (['-'], rest)
| '+' :: rest => ([], rest)
| cs => ([], cs)

/- Nothing, or a point and zeros. -/
def isZeroFraction : List Char → Bool
| [] => true
| '.' :: zeros => !zeros.isEmpty && zeros.all (· == '0')
| _ => false

/- A text without a point and zeros at its end. -/
def withoutFraction? (cs : List Char) : Option (List Char) :=
  if isZeroFraction (cs.dropWhile (· != '.')) then
    some (cs.takeWhile (· != '.'))
  else none

/-
  What follows zeros and underscores.  A digit or a hyphen
  may follow, and if nothing does, the last of them stays.
-/
def afterZerosFrom (last : Char) :
    List Char → Option (List Char)
| [] => some [last]
| c :: rest =>
    if c = '0' ∨ c = '_' then afterZerosFrom c rest
    else if Text.isDigit c ∨ c = '-' then some (c :: rest)
    else none

/- A text that starts with a digit, without zeros in front. -/
def afterZeros? : List Char → Option (List Char)
| [] => none
| c :: rest =>
    if c = '0' then afterZerosFrom c rest
    else if Text.isDigit c then some (c :: rest)
    else none

/-
  The plain form of a text for a whole number: a hyphen if
  it is negative, and digits.
-/
def plainForm? (cs : List Char) : Option (List Char) := do
  let (sign, rest) :=
    splitSign (Text.trim Text.isSpacing cs)
  let whole ← withoutFraction? rest
  let digits ← afterZeros? whole
  ungrouped? (sign ++ digits)

/- Digits without a zero in front, unless it is the only one. -/
def isNumeral (digits : List Char) : Bool :=
  digits == ['0']
    || (!digits.isEmpty && digits.all Text.isDigit
      && digits.head? != some '0')

/- The number of some digits, if there are not too many. -/
def naturalOfDigits? (digits : List Char) : Option Nat :=
  if isNumeral digits ∧ digits.length ≤ Text.digitLimit then
    some (Text.numeralValue digits)
  else none

/- The integer that is written in plain form. -/
def integerOfPlain? : List Char → Option Int
| '-' :: digits =>
    (naturalOfDigits? digits).map fun n => -(n : Int)
| digits => (naturalOfDigits? digits).map fun n => (n : Int)

/-
  A text starts like an integer in plain form, with too many
  digits.  What else stands in it is not looked at.
-/
def startsTooLong (cs : List Char) : Bool :=
  let digits :=
    (match cs with
    | '-' :: rest => rest
    | _ => cs).takeWhile Text.isDigit
  digits.head? != some '0'
    && decide (Text.digitLimit < digits.length)

/- The integer that a text is given for. -/
def integerOfText (s : String) : Taken Int :=
  if startsTooLong s.toList then .error .intParsingSize
  else
    match (plainForm? s.toList).bind integerOfPlain? with
    | some n => .ok n
    | none => .error .intParsing

/- Two to the power of 63, which bounds 64-bit integers. -/
def wordBound : Int :=
  twoTo 63

/- The integer that a double is, within 64 bits. -/
def integerOfDouble (d : Double) : Taken Int :=
  match d.toRat? with
  | none => .error .notFinite
  | some q =>
      if q.den ≠ 1 then .error .intFromFloat
      else if -wordBound < q.num ∧ q.num < wordBound then
        .ok q.num
      else .error .intParsingSize

/- Take a value for an integer. -/
def integer : Json → Taken Int
| .int n => .ok n
| .bool b => .ok (if b then 1 else 0)
| .float d => integerOfDouble d
| .text s => integerOfText s
| _ => .error .intType

/- Take a value for an integer that is not too small. -/
def integerAtLeast (low : Int) (j : Json) : Taken Int :=
  match integer j with
  | .error kind => .error kind
  | .ok n => if n < low then .error (.atLeast low) else .ok n

/- Take a value for an integer between two bounds. -/
def integerBetween
    (low high : Int)
    (j : Json) : Taken Int :=
  match integerAtLeast low j with
  | .error kind => .error kind
  | .ok n => if high < n then .error (.atMost high) else .ok n

------------------------------------------------------------
-- Texts
------------------------------------------------------------

/- Take a value for a text. -/
def text : Json → Taken String
| .text s => .ok s
| _ => .error .stringType

/- Take a value for a text that is not too long. -/
def textUpTo (limit : Nat) (j : Json) : Taken String :=
  match text j with
  | .error kind => .error kind
  | .ok s =>
      if limit < s.length then .error (.stringTooLong limit)
      else .ok s

------------------------------------------------------------
-- Doubles
------------------------------------------------------------

/- The double that a text is given for. -/
def doubleOfText (s : String) : Taken Double :=
  match Double.read? (Text.trim Text.isSpacing s.toList) with
  | some d => .ok d
  | none =>
      match (ungrouped? s.toList).bind Double.read? with
      | some d => .ok d
      | none => .error .floatParsing

/- Take a value for a double. -/
def double : Json → Taken Double
| .float d => .ok d
| .int n =>
    match Double.ofRat n with
    | .infinite _ => .error .floatType
    | d => .ok d
| .bool b => .ok (Double.ofRat (if b then 1 else 0))
| .text s => doubleOfText s
| _ => .error .floatType

------------------------------------------------------------
-- Truth Values
------------------------------------------------------------

/- The words for false. -/
def falseWords : List String :=
  ["0", "off", "f", "false", "n", "no"]

/- The words for true. -/
def trueWords : List String :=
  ["1", "on", "t", "true", "y", "yes"]

/- The truth value that a text is given for. -/
def truthOfText (s : String) : Taken Bool :=
  let word := Double.lowered s.toList
  if word ∈ falseWords then .ok false
  else if word ∈ trueWords then .ok true
  else .error .boolParsing

/- The truth value that an integer is given for. -/
def truthOfInteger (n : Int) : Taken Bool :=
  if n = 0 then .ok false
  else if n = 1 then .ok true
  else if -wordBound ≤ n ∧ n < wordBound then
    .error .boolParsing
  else .error .boolType

/- Take a value for a truth value. -/
def truth : Json → Taken Bool
| .bool b => .ok b
| .int n => truthOfInteger n
| .float d =>
    match integerOfDouble d with
    | .ok n => truthOfInteger n
    | .error _ => .error .boolType
| .text s => truthOfText s
| _ => .error .boolType

------------------------------------------------------------
-- Optional Values
------------------------------------------------------------

/- Take null for no value, and another value by a rule. -/
def optional
    {ε α : Type}
    (rule : Json → Except ε α) : Json → Except ε (Option α)
| .null => .ok none
| j =>
    match rule j with
    | .ok x => .ok (some x)
    | .error e => .error e

end Scalar

end Termwise
