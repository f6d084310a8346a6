import Termwise.Json.Mark

/-
  This file defines how marks are read as a JSON value.

  The reader keeps the lists and objects that are still open
  on a stack and takes one mark after the other.

  Key definitions include:
    * `Json.ReadFault`
    * `Json.Members`
    * `Json.Frame`
    * `Json.Awaiting`
    * `Json.Reader`
    * `Json.Reader.deliver`
    * `Json.Reader.take`
    * `Json.read`
-/

namespace Termwise

namespace Json

/-
  Why a text is not read as a value: it is none, or one that
  is beyond the limits of its dialect.
-/
inductive ReadFault where
| malformed
| beyondLimits
deriving DecidableEq, Repr

------------------------------------------------------------
-- States of the Reader
------------------------------------------------------------

/- What an object holds, and if it has a broken key. -/
structure Members where
  fields : List (String × Json)
  stray : Bool

namespace Members

/- An object that holds nothing. -/
def empty : Members :=
  ⟨[], false⟩

/- One more value under a key, unless that is broken. -/
def put
    (key : Option String)
    (v : Json)
    (m : Members) : Members :=
  match key with
  | some key => ⟨Json.put key v m.fields, m.stray⟩
  | none => ⟨m.fields, true⟩

/- The object itself. -/
def toJson (m : Members) : Json :=
  if m.stray then .object (m.fields ++ [("", .broken)])
  else .object m.fields

end Members

/-
  What is still open: a list with its items so far, last
  first; an object with its members so far; or an object in
  which a key waits for its value.
-/
inductive Frame where
| list : List Json → Frame
| object : Members → Frame
| entry : Members → Option String → Frame

/- What may come next. -/
inductive Awaiting where
| value : Awaiting
| valueOrClose : Awaiting
| key : Awaiting
| keyOrClose : Awaiting
| colon : Awaiting
| commaOrClose : Awaiting
| finish : Json → Awaiting

/- The state of a reader. -/
structure Reader where
  stack : List Frame
  awaiting : Awaiting

namespace Reader

/- A reader that has read nothing. -/
def start : Reader :=
  ⟨[], .value⟩

/- Put a finished value where it belongs. -/
def deliver (v : Json) : List Frame → Reader
| [] => ⟨[], .finish v⟩
| .list items :: rest =>
    ⟨.list (v :: items) :: rest, .commaOrClose⟩
| .object members :: rest =>
    ⟨.object members :: rest, .commaOrClose⟩
| .entry members key :: rest =>
    ⟨.object (members.put key v) :: rest, .commaOrClose⟩

/- Take a mark where a value has to come. -/
def takeValue
    (stack : List Frame) : Mark → Except ReadFault Reader
| .atom v => .ok (deliver v stack)
| .openList => .ok ⟨.list [] :: stack, .valueOrClose⟩
| .openObject => .ok ⟨.object .empty :: stack, .keyOrClose⟩
| .overlong => .error .beyondLimits
| _ => .error .malformed

/- Take a mark where a key has to come. -/
def takeKey
    (stack : List Frame)
    (m : Mark) : Except ReadFault Reader :=
  match stack, m with
  | .object members :: rest, .atom (.text key) =>
      .ok ⟨.entry members (some key) :: rest, .colon⟩
  | .object members :: rest, .atom .broken =>
      .ok ⟨.entry members none :: rest, .colon⟩
  | _, _ => .error .malformed

/- Take a mark that closes what is open. -/
def takeClose
    (stack : List Frame)
    (m : Mark) : Except ReadFault Reader :=
  match stack, m with
  | .list items :: rest, .closeList =>
      .ok (deliver (.list items.reverse) rest)
  | .object members :: rest, .closeObject =>
      .ok (deliver members.toJson rest)
  | _, _ => .error .malformed

/- Take a mark between two parts of a value. -/
def takeBetween
    (stack : List Frame)
    (m : Mark) : Except ReadFault Reader :=
  match stack, m with
  | .list items :: rest, .comma =>
      .ok ⟨.list items :: rest, .value⟩
  | .object members :: rest, .comma =>
      .ok ⟨.object members :: rest, .key⟩
  | _, _ => takeClose stack m

/- Take the first mark inside a list or an object. -/
def takeFirst
    (d : Dialect)
    (r : Reader)
    (next : Except ReadFault Reader) : Except ReadFault Reader :=
  if d.admits r.stack then next else .error .beyondLimits

/- Take the next mark. -/
def take
    (d : Dialect)
    (r : Reader)
    (m : Mark) : Except ReadFault Reader :=
  match r.awaiting with
  | .value => takeValue r.stack m
  | .valueOrClose =>
      match m with
      | .closeList => takeClose r.stack .closeList
      | m => takeFirst d r (takeValue r.stack m)
  | .key => takeKey r.stack m
  | .keyOrClose =>
      match m with
      | .closeObject => takeClose r.stack .closeObject
      | m => takeFirst d r (takeKey r.stack m)
  | .colon =>
      match m with
      | .colon => .ok ⟨r.stack, .value⟩
      | _ => .error .malformed
  | .commaOrClose => takeBetween r.stack m
  | .finish _ => .error .malformed

/- Take marks in turn. -/
def takeAll
    (d : Dialect)
    (r : Reader) : List Mark → Except ReadFault Reader
| [] => .ok r
| m :: ms =>
    match r.take d m with
    | .ok r => takeAll d r ms
    | .error f => .error f

end Reader

------------------------------------------------------------
-- Reading Texts
------------------------------------------------------------

/- The value that marks make up. -/
def ofMarks
    (d : Dialect)
    (ms : List Mark) : Except ReadFault Json :=
  match Reader.takeAll d .start ms with
  | .error f => .error f
  | .ok r =>
      match r.awaiting with
      | .finish v => .ok v
      | _ => .error .malformed

/- Read the characters of a JSON text. -/
def readChars
    (d : Dialect)
    (cs : List Char) : Except ReadFault Json :=
  ofMarks d (marks d cs)

/- Read a JSON text. -/
def read
    (d : Dialect)
    (text : String) : Except ReadFault Json :=
  readChars d text.toList

end Json

end Termwise
