import Termwise.Double.Shortest
import Termwise.Text.Quoted

/-
  This file defines JSON values.  Whole numbers are kept
  apart from numbers with a fraction or an exponent.

  Key definitions include:
    * `Json`
    * `Json.put`
    * `Json.field?`
    * `Json.isWritable`
    * `Json.shown`
-/

namespace Termwise

/-
  A JSON value.  The keys of an object stand in the order in
  which they first came, each once.

  A broken text has half of a surrogate pair in it, so that
  it is no list of characters.  An object with a broken key
  has an empty key with a broken text at its end instead.
-/
inductive Json where
| null : Json
| bool : Bool → Json
| int : Int → Json
| float : Double → Json
| text : String → Json
| broken : Json
| list : List Json → Json
| object : List (String × Json) → Json
deriving Repr

namespace Json

------------------------------------------------------------
-- Fields
------------------------------------------------------------

/- Give a key a value, in the place of the old one if any. -/
def put
    (key : String)
    (v : Json) : List (String × Json) → List (String × Json)
| [] => [(key, v)]
| (k, w) :: rest =>
    if k = key then (key, v) :: rest
    else (k, w) :: put key v rest

/- The value of a field among others. -/
def lookup?
    (key : String) : List (String × Json) → Option Json
| [] => none
| (k, v) :: rest => if k = key then some v else lookup? key rest

/- The value of a field of an object. -/
def field? (key : String) : Json → Option Json
| object fields => lookup? key fields
| _ => none

/- A value that is found under a key is smaller. -/
theorem sizeOf_lookup?_lt
    {key : String}
    {fields : List (String × Json)}
    {v : Json}
    (h : lookup? key fields = some v) :
    sizeOf v < sizeOf fields := by
  induction fields with
  | nil => cases h
  | cons f rest ih =>
      rcases f with ⟨k, w⟩
      unfold lookup? at h
      split at h
      · cases h
        simp only [List.cons.sizeOf_spec, Prod.mk.sizeOf_spec]
        omega
      · have hlt := ih h
        simp only [List.cons.sizeOf_spec]
        omega

------------------------------------------------------------
-- Writable Values
------------------------------------------------------------

mutual

/-
  A value can be written for others to read: its numbers are
  finite, and its texts consist of characters.
-/
def isWritable : Json → Bool
| null => true
| bool _ => true
| int _ => true
| float d => d.isFinite
| text _ => true
| broken => false
| list items => areWritable items
| object fields => haveWritable fields

/- All items of a list can be written. -/
def areWritable : List Json → Bool
| [] => true
| v :: rest => isWritable v && areWritable rest

/- All values of some fields can be written. -/
def haveWritable : List (String × Json) → Bool
| [] => true
| (_, v) :: rest => isWritable v && haveWritable rest

end

------------------------------------------------------------
-- Values in Messages
------------------------------------------------------------

/- What is shown in the place of a broken text. -/
def brokenText : String :=
  "\ufffd"

/- Texts with a comma and a space between each two. -/
def commaSeparated (texts : List String) : String :=
  String.intercalate ", " texts

mutual

/- How a value is shown inside a list or an object. -/
def shownInside : Json → String
| null => "None"
| bool true => "True"
| bool false => "False"
| int n => Text.integer n
| float d => d.text
| text s => Text.quoted s
| broken => Text.quoted brokenText
| list items => "[" ++ commaSeparated (shownItems items) ++ "]"
| object fields =>
    "\x7b" ++ commaSeparated (shownFields fields) ++ "\x7d"

/- How the items of a list are shown. -/
def shownItems : List Json → List String
| [] => []
| v :: rest => shownInside v :: shownItems rest

/- How the fields of an object are shown. -/
def shownFields : List (String × Json) → List String
| [] => []
| (k, v) :: rest =>
    (Text.quoted k ++ ": " ++ shownInside v)
      :: shownFields rest

end

/- How a message shows a value: a text stands as it is. -/
def shown : Json → String
| text s => s
| v => shownInside v

end Json

end Termwise
