import Termwise.Double.Read
import Termwise.Json.Basic
import Termwise.Text.Blank
import Termwise.Text.Hexadecimal
import Termwise.Text.Start

/-
  This file defines the marks that a JSON text consists of:
  brackets, commas, colons, and the values without parts.

  Texts that are no JSON still have marks; what cannot be
  read becomes a `bad` mark, and a number that is refused
  for its length an `overlong` one.

  Key definitions include:
    * `Json.Mark`
    * `Json.Dialect`
    * `Json.scanString?`
    * `Json.scanNumber?`
    * `Json.marks`
-/

namespace Termwise

namespace Json

/- A mark of a JSON text. -/
inductive Mark where
| openList : Mark
| closeList : Mark
| openObject : Mark
| closeObject : Mark
| comma : Mark
| colon : Mark
| atom : Json → Mark
| overlong : Mark
| bad : Mark

------------------------------------------------------------
-- Dialects
------------------------------------------------------------

/- Which numbers are refused if they have too many digits. -/
inductive LengthRule where
| noNumbers
| wholeNumbers
| allNumbers
deriving DecidableEq, Repr

/-
  A number is refused that has so many digits before any
  point, and if nothing else belongs to it.
-/
def LengthRule.refuses
    (rule : LengthRule)
    (digits : Nat)
    (isWhole : Bool) : Bool :=
  match rule with
  | noNumbers => false
  | wholeNumbers => isWhole && decide (Text.digitLimit < digits)
  | allNumbers => decide (Text.digitLimit < digits)

/-
  What is taken for a JSON text: numbers of which lengths,
  lists and objects up to which depth, and if a text may be
  broken.  At a greater depth they have to be empty.
-/
structure Dialect where
  lengths : LengthRule
  depth : Option Nat
  mayBreak : Bool
deriving DecidableEq, Repr

namespace Dialect

/- Texts without any limit. -/
def unlimited : Dialect where
  lengths := .noNumbers
  depth := none
  mayBreak := false

/- Documents that stand for themselves. -/
def document : Dialect where
  lengths := .allNumbers
  depth := some 200
  mayBreak := false

/-
  Bodies of requests, of any depth, and possibly broken.  The
  reader of bodies calls itself for what is inside a value,
  and how deep it gets before it runs out of room is not
  modelled.
-/
def body : Dialect where
  lengths := .wholeNumbers
  depth := none
  mayBreak := true

/- A value may stand inside everything that is open. -/
def admits
    {α : Type}
    (d : Dialect)
    (opened : List α) : Bool :=
  match d.depth with
  | none => true
  | some limit => decide (opened.length ≤ limit)

end Dialect

------------------------------------------------------------
-- Strings
------------------------------------------------------------

/- The number of four hexadecimal digits. -/
def hexUnit? (a b c d : Char) : Option Nat :=
  match Text.hexValue? a, Text.hexValue? b,
    Text.hexValue? c, Text.hexValue? d with
  | some a, some b, some c, some d =>
      some (((a * 16 + b) * 16 + c) * 16 + d)
  | _, _, _, _ => none

/- The character that a short escape stands for. -/
def shortEscape? (c : Char) : Option Char :=
  if c = '"' then some '"'
  else if c = '\\' then some '\\'
  else if c = '/' then some '/'
  else if c = 'b' then some '\x08'
  else if c = 'f' then some '\x0c'
  else if c = 'n' then some '\n'
  else if c = 'r' then some '\r'
  else if c = 't' then some '\t'
  else none

/-
  A piece of a string: a character, or a UTF-16 code unit
  that was written as an escape or is half of a pair.
-/
inductive Piece where
| char : Char → Piece
| unit : Nat → Piece
deriving DecidableEq, Repr

/- The pieces up to the closing quotation mark, last first. -/
def scanPieces?
    (done : List Piece) :
    List Char → Option (List Piece × List Char)
| [] => none
| '"' :: rest => some (done, rest)
| '\\' :: 'u' :: a :: b :: c :: d :: rest =>
    match hexUnit? a b c d with
    | some n => scanPieces? (.unit n :: done) rest
    | none => none
| '\\' :: e :: rest =>
    match shortEscape? e with
    | some c => scanPieces? (.char c :: done) rest
    | none => none
| c :: rest =>
    if c.toNat < 0x20 ∨ c = '\\' then none
    else scanPieces? (.char c :: done) rest

/- A code unit is the first of a surrogate pair. -/
def isHigh (n : Nat) : Bool :=
  decide (0xD800 ≤ n) && decide (n < 0xDC00)

/- A code unit is the second of a surrogate pair. -/
def isLow (n : Nat) : Bool :=
  decide (0xDC00 ≤ n) && decide (n < 0xE000)

/- The character that a surrogate pair is. -/
def pairChar (high low : Nat) : Char :=
  Char.ofNat
    (0x10000 + (high - 0xD800) * 0x400 + (low - 0xDC00))

/-
  Join pieces, given last first, in front of the characters
  that follow them.  Half a surrogate pair is no character.
-/
def joinPieces? :
    List Piece → List Char → Option (List Char)
| [], cs => some cs
| .char c :: rest, cs => joinPieces? rest (c :: cs)
| .unit low :: .unit high :: rest, cs =>
    if isLow low then
      if isHigh high then
        joinPieces? rest (pairChar high low :: cs)
      else none
    else if isHigh low then none
    else joinPieces? (.unit high :: rest) (Char.ofNat low :: cs)
| .unit n :: rest, cs =>
    if isLow n || isHigh n then none
    else joinPieces? rest (Char.ofNat n :: cs)

/- The text that pieces make up, given last first. -/
def ofPieces (pieces : List Piece) : Json :=
  match joinPieces? pieces [] with
  | some cs => text (String.ofList cs)
  | none => broken

/- A string after its opening quotation mark. -/
def scanString?
    (d : Dialect)
    (cs : List Char) : Option (Json × List Char) :=
  match scanPieces? [] cs with
  | none => none
  | some (pieces, rest) =>
      match ofPieces pieces with
      | broken => if d.mayBreak then some (broken, rest) else none
      | v => some (v, rest)

------------------------------------------------------------
-- Numbers
------------------------------------------------------------

/- The digits of a number before any point. -/
def scanWhole? :
    List Char → Option (List Char × List Char)
| [] => none
| c :: rest =>
    if c = '0' then some (['0'], rest)
    else if Text.isDigit c then
      some (c :: rest.takeWhile Text.isDigit,
        rest.dropWhile Text.isDigit)
    else none

/- The digits after a point, if there are any. -/
def scanFraction (cs : List Char) : List Char × List Char :=
  match cs with
  | '.' :: rest =>
      let digits := rest.takeWhile Text.isDigit
      if digits.isEmpty then ([], cs)
      else (digits, rest.dropWhile Text.isDigit)
  | _ => ([], cs)

/- The exponent of a number, which is zero if none is there. -/
def scanExponent (cs : List Char) : Int × List Char :=
  (Scientific.scanExponent? cs).getD (0, cs)

/- A number after its sign, and what does not belong to it. -/
def scanUnsigned?
    (rule : LengthRule)
    (negative : Bool)
    (cs : List Char) : Option (Mark × List Char) :=
  match scanWhole? cs with
  | none => none
  | some (whole, afterWhole) =>
      let (fraction, afterFraction) := scanFraction afterWhole
      let (e, rest) := scanExponent afterFraction
      let isWhole := rest.length = afterWhole.length
      let n : Int := Text.numeralValue whole
      if rule.refuses whole.length isWhole then
        some (.overlong, rest)
      else if isWhole then
        some (.atom (.int (if negative then -n else n)), rest)
      else
        some (.atom (.float
          (Scientific.toDouble negative
            ⟨whole, fraction, e⟩)), rest)

/- The values that are written as words. -/
def words : List (String × Json) :=
  [("null", .null), ("true", .bool true),
   ("false", .bool false), ("NaN", .float .nan),
   ("Infinity", .float (.infinite false)),
   ("-Infinity", .float (.infinite true))]

/- A value that is written as a word. -/
def scanWord?
    (cs : List Char) : Option (Mark × List Char) :=
  words.findSome? fun (word, v) =>
    (Text.afterStart? word.toList cs).map fun rest => (.atom v, rest)

/- A number. -/
def scanNumber?
    (rule : LengthRule)
    (cs : List Char) : Option (Mark × List Char) :=
  match cs with
  | '-' :: rest => scanUnsigned? rule true rest
  | _ => scanUnsigned? rule false cs

------------------------------------------------------------
-- Marks
------------------------------------------------------------

/- White space between marks. -/
def isJsonBlank (c : Char) : Bool :=
  c == ' ' || c == '\t' || c == '\n' || c == '\r'

/- The mark of a character that stands for itself. -/
def symbolMark? (c : Char) : Option Mark :=
  if c = '[' then some .openList
  else if c = ']' then some .closeList
  else if c = '\x7b' then some .openObject
  else if c = '\x7d' then some .closeObject
  else if c = ',' then some .comma
  else if c = ':' then some .colon
  else none

/- The value without parts that a text starts with. -/
def scanAtom?
    (d : Dialect)
    (cs : List Char) : Option (Mark × List Char) :=
  match cs with
  | '"' :: rest =>
      (scanString? d rest).map fun (v, rest) => (.atom v, rest)
  | _ =>
      match scanWord? cs with
      | some found => some found
      | none => scanNumber? d.lengths cs

/-
  The marks of a text, up to the first that cannot be read.
  Every mark takes a character at least; `fuel` is the
  number of characters that there may be.
-/
def marksWithin
    (d : Dialect) :
    Nat → List Char → List Mark
| 0, _ => []
| _ + 1, [] => []
| fuel + 1, c :: cs =>
    if isJsonBlank c then marksWithin d fuel cs
    else
      match symbolMark? c with
      | some m => m :: marksWithin d fuel cs
      | none =>
          match scanAtom? d (c :: cs) with
          | some (m, rest) => m :: marksWithin d fuel rest
          | none => [.bad]

/- The marks of a text. -/
def marks (d : Dialect) (cs : List Char) : List Mark :=
  marksWithin d cs.length cs

end Json

end Termwise
