import Termwise.Json.Basic

/-
  This file defines how JSON values are written: on one line
  without spaces, or on indented lines.

  Key definitions include:
    * `Json.Layout`
    * `Json.Layout.compact`
    * `Json.Layout.ascii`
    * `Json.Layout.indented`
    * `Json.stringChars`
    * `Json.charsAt`
    * `Json.write`
-/

namespace Termwise

namespace Json

/-
  How values are written: if only ASCII characters are used,
  and how far each level is indented, if lines are broken.
-/
structure Layout where
  asciiOnly : Bool
  indent : Option Nat
deriving DecidableEq, Repr

namespace Layout

/- On one line, with all characters as they are. -/
def compact : Layout :=
  ⟨false, none⟩

/- On one line, in ASCII. -/
def ascii : Layout :=
  ⟨true, none⟩

/- On lines indented by two spaces a level, in ASCII. -/
def indented : Layout :=
  ⟨true, some 2⟩

end Layout

------------------------------------------------------------
-- Strings
------------------------------------------------------------

/- A UTF-16 code unit as an escape. -/
def unitChars (n : Nat) : List Char :=
  '\\' :: 'u' :: Text.hexDigits 4 n

/- A character as escaped code units. -/
def escapedChars (c : Char) : List Char :=
  if c.toNat < 0x10000 then unitChars c.toNat
  else
    unitChars (0xD800 + (c.toNat - 0x10000) / 0x400)
      ++ unitChars (0xDC00 + (c.toNat - 0x10000) % 0x400)

/- A character as it is written in a string. -/
def stringChar (asciiOnly : Bool) (c : Char) : List Char :=
  if c = '"' then ['\\', '"']
  else if c = '\\' then ['\\', '\\']
  else if c = '\x08' then ['\\', 'b']
  else if c = '\x0c' then ['\\', 'f']
  else if c = '\n' then ['\\', 'n']
  else if c = '\r' then ['\\', 'r']
  else if c = '\t' then ['\\', 't']
  else if c.toNat < 0x20 then escapedChars c
  else if asciiOnly && decide (0x7E < c.toNat) then
    escapedChars c
  else [c]

/- The characters of a string with its quotation marks. -/
def stringChars (asciiOnly : Bool) (s : String) : List Char :=
  '"' :: s.toList.flatMap (stringChar asciiOnly) ++ ['"']

------------------------------------------------------------
-- Values
------------------------------------------------------------

namespace Layout

/- A line break before something at a level, if lines break. -/
def newline (l : Layout) (level : Nat) : List Char :=
  match l.indent with
  | none => []
  | some width => '\n' :: List.replicate (width * level) ' '

/- What stands between a key and its value. -/
def colon (l : Layout) : List Char :=
  match l.indent with
  | none => [':']
  | some _ => [':', ' ']

end Layout

/- The characters of a number that need not be finite. -/
def doubleChars (d : Double) : List Char :=
  match d with
  | .nan => "NaN".toList
  | .infinite true => "-Infinity".toList
  | .infinite false => "Infinity".toList
  | d => d.text.toList

mutual

/- The characters of a value at a level. -/
def charsAt (l : Layout) (level : Nat) : Json → List Char
| null => "null".toList
| bool true => "true".toList
| bool false => "false".toList
| int n => Text.integerChars n
| float d => doubleChars d
| text s => stringChars l.asciiOnly s
| broken => stringChars l.asciiOnly brokenText
| list [] => ['[', ']']
| list (v :: rest) =>
    ['['] ++ l.newline (level + 1)
      ++ charsAt l (level + 1) v
      ++ itemChars l (level + 1) rest
      ++ l.newline level ++ [']']
| object [] => ['\x7b', '\x7d']
| object ((k, v) :: rest) =>
    ['\x7b'] ++ l.newline (level + 1)
      ++ stringChars l.asciiOnly k ++ l.colon
      ++ charsAt l (level + 1) v
      ++ fieldChars l (level + 1) rest
      ++ l.newline level ++ ['\x7d']

/- The characters of the items after the first. -/
def itemChars
    (l : Layout)
    (level : Nat) : List Json → List Char
| [] => []
| v :: rest =>
    [','] ++ l.newline level ++ charsAt l level v
      ++ itemChars l level rest

/- The characters of the fields after the first. -/
def fieldChars
    (l : Layout)
    (level : Nat) : List (String × Json) → List Char
| [] => []
| (k, v) :: rest =>
    [','] ++ l.newline level
      ++ stringChars l.asciiOnly k ++ l.colon
      ++ charsAt l level v ++ fieldChars l level rest

end

/- The characters of a value. -/
def chars (l : Layout) (v : Json) : List Char :=
  charsAt l 0 v

/- Write a value. -/
def write (l : Layout) (v : Json) : String :=
  String.ofList (chars l v)

end Json

end Termwise
