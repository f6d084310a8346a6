import Termwise.Json.Encoding
import Termwise.Json.Read
import Termwise.Service.Response
import Termwise.Service.Submission
import Termwise.Service.Target
import Termwise.Settings

/-
  This file defines the service: which requests it knows,
  and how it answers them.

  A request is answered in this order: its path and method
  are looked up, its body is read, what the body holds is
  checked, and only then anything is done with it.

  What carries requests to the program is assumed: how a path
  finds its endpoint or is moved to one, which media types
  make a body JSON, what is answered with the codes 307, 400,
  404, 405 and 422 before the program is asked, and that a
  failure which the program does not answer for becomes a
  response with the code 500.  How a body is read and checked
  is told by the modules of its reader and of the schema.

  Key definitions include:
    * `Request`
    * `Endpoint`
    * `Endpoint.atPath?`
    * `Route`
    * `Route.ofTarget`
    * `BodyKind`
    * `Service.readBody`
    * `Service.parseAnswer`
    * `Service.reduceAnswer`
    * `Service.renderAnswer`
    * `Service.compareAnswer`
    * `Service.serve`
    * `OpeningFault`
    * `Service.openingFault?`
-/

namespace Termwise

------------------------------------------------------------
-- Requests
------------------------------------------------------------

/-
  A request.  A body of no characters is no body, and the
  media type tells what a body is.
-/
structure Request where
  method : String
  target : String
  media : String
  body : String
deriving DecidableEq, Repr

/- What the service can be asked for. -/
inductive Endpoint where
| health
| parse
| evaluate
| render
| equivalence
deriving DecidableEq, Repr

namespace Endpoint

/- All endpoints. -/
def all : List Endpoint :=
  [health, parse, evaluate, render, equivalence]

/- The path of an endpoint. -/
def path : Endpoint → List Char
| health => "/health".toList
| parse => "/parse".toList
| evaluate => "/evaluate".toList
| render => "/render".toList
| equivalence => "/equivalence".toList

/- The method that an endpoint answers to. -/
def method : Endpoint → String
| health => "GET"
| _ => "POST"

/- A path without one line break at its end. -/
def withoutBreak (path : List Char) : List Char :=
  if path.getLast? = some '\n' then path.dropLast else path

/- The endpoint at a path. -/
def atPath? (path : List Char) : Option Endpoint :=
  all.find? fun e => e.path == withoutBreak path

end Endpoint

/-
  Where a request goes: to an endpoint, to the same path
  without slashes at its end, or nowhere.
-/
inductive Route where
| endpoint : Endpoint → Route
| moved : Route
| nowhere : Route
deriving DecidableEq, Repr

namespace Route

/- A path without slashes at its end. -/
def withoutSlashes (path : List Char) : List Char :=
  (path.reverse.dropWhile (· == '/')).reverse

/- Where a request for a path goes. -/
def ofPath (path : List Char) : Route :=
  match Endpoint.atPath? path with
  | some e => endpoint e
  | none =>
      if path.getLast? = some '/'
          ∧ (Endpoint.atPath? (withoutSlashes path)).isSome then
        moved
      else nowhere

/- Where a request with a target goes. -/
def ofTarget (target : String) : Route :=
  ofPath (Target.path target.toList)

end Route

namespace Service

------------------------------------------------------------
-- Bodies
------------------------------------------------------------

/- The media type without its parameters, in lower case. -/
def plainMedia (media : List Char) : List Char :=
  (Text.trim Text.isBlank (media.takeWhile (· != ';'))).map
    Char.toLower

/- A subtype of JSON: the plain one, or one built upon it. -/
def isJsonSubtype (cs : List Char) : Bool :=
  cs == "json".toList || "+json".toList.isSuffixOf cs

/- A body of this media type is read as JSON. -/
def isJsonMedia (media : String) : Bool :=
  let cs := plainMedia media.toList
  let main := cs.takeWhile (· != '/')
  match cs.dropWhile (· != '/') with
  | _ :: subtype =>
      main == "application".toList && !subtype.contains '/'
        && isJsonSubtype subtype
  | [] => false

/-
  What comes of the body of a request: nothing, a value, a
  text of another kind, no value, or nothing that could be
  read to its end.
-/
inductive BodyKind where
| absent : BodyKind
| value : Json → BodyKind
| foreign : BodyKind
| malformed : BodyKind
| unreadable : BodyKind

/- Read a body of JSON. -/
def readJson (text : String) : BodyKind :=
  match Json.encodedChars? text with
  | none => .unreadable
  | some cs =>
      match Json.readChars .body cs with
      | .ok v => .value v
      | .error .malformed => .malformed
      | .error .beyondLimits => .unreadable

/- Read the body of a request. -/
def readBody (r : Request) : BodyKind :=
  if r.body.isEmpty then .absent
  else if isJsonMedia r.media then readJson r.body
  else .foreign

/- Go on with what a body holds, or tell what is wrong. -/
def withBody
    {α : Type}
    (r : Request)
    (rule : Json → Checked α)
    (next : α → Except ServiceFault Json) : Response :=
  match readBody r with
  | .absent => .invalid [⟨.missing, ["body"], .null⟩]
  | .foreign =>
      .invalid [⟨.notAttributes, ["body"], .text r.body⟩]
  | .malformed => .invalid [⟨.jsonInvalid, ["body"], .null⟩]
  | .unreadable =>
      .detail 400 (.text "There was an error parsing the body")
  | .value v =>
      match Checked.under "body" (rule v) with
      | .error issues => .invalid issues
      | .ok x =>
          match next x with
          | .error f => f.response
          | .ok answer => .fulfilled answer

------------------------------------------------------------
-- Answers
------------------------------------------------------------

/- A number that is too long stops the service. -/
def written {α : Type} (a : Except Overlong α) :
    Except ServiceFault α :=
  a.mapError .overlong

/- The tree of what is submitted. -/
def resolved (s : Submission) : Except ServiceFault Tree :=
  s.resolve.mapError .expression

/- Expressions that are to be shown have to be writable. -/
def writable
    (es : List Submission) : Except ServiceFault Unit :=
  if es.all Submission.isWritable then .ok ()
  else .error .unwritable

/- Parse a text and show its tree. -/
def parseAnswer (text : String) : Except ServiceFault Json := do
  let t ← resolved (.text text)
  written t.view

/- Reduce an expression and show it with its result. -/
def reduceAnswer (b : ReduceBody) : Except ServiceFault Json := do
  let t ← resolved b.expression
  writable [b.expression]
  let r ← written t.trace
  let input ← written t.view
  let result ← written r.result.view
  let steps := if b.steps then r.steps else []
  return .object
    [("input", input), ("result", result),
     ("steps", .list (steps.map .text))]

/- Show the written forms of an expression. -/
def renderAnswer (s : Submission) : Except ServiceFault Json := do
  let t ← resolved s
  writable [s]
  return .object (← written t.forms)

/- Compare two expressions and show the report. -/
def compareAnswer
    (s : Settings)
    (fresh : Twister)
    (b : CompareBody) : Except ServiceFault Json := do
  let t ← resolved b.left
  let u ← resolved b.right
  writable [b.left, b.right]
  let cfg ← (s.config b.trials).mapError .config
  let source := s.source b.seed fresh
  let report ← (check cfg t u source).1.mapError .check
  return .object [("report", report.toJson)]

/- Tell that the service is up. -/
def healthAnswer (s : Settings) : Json :=
  .object [("status", .text "ok"), ("version", .text s.version)]

------------------------------------------------------------
-- The Service
------------------------------------------------------------

/- Answer a request at an endpoint. -/
def answerAt
    (s : Settings)
    (fresh : Twister)
    (r : Request) : Endpoint → Response
| .health => .fulfilled (healthAnswer s)
| .parse => withBody r ParseBody.ofJson parseAnswer
| .evaluate => withBody r ReduceBody.ofJson reduceAnswer
| .render => withBody r Submission.ofJson renderAnswer
| .equivalence =>
    withBody r CompareBody.ofJson (compareAnswer s fresh)

/- Answer a request as if its method did not matter. -/
def respond
    (s : Settings)
    (fresh : Twister)
    (r : Request) : Response :=
  match Route.ofTarget r.target with
  | .nowhere => .detail 404 (.text "Not Found")
  | .moved => .moved
  | .endpoint e =>
      if r.method.toUpper = e.method then answerAt s fresh r e
      else .detail 405 (.text "Method Not Allowed")

/-
  Answer a request.  One that asks for the head of a
  response gets no body.
-/
def serve
    (s : Settings)
    (fresh : Twister)
    (r : Request) : Response :=
  if r.method.toUpper = "HEAD" then
    ⟨(respond s fresh r).status, .text ""⟩
  else respond s fresh r

end Service

------------------------------------------------------------
-- Opening the Service
------------------------------------------------------------

/- Why a service is not opened. -/
inductive OpeningFault where
| noTitle
| noVersion
deriving DecidableEq, Repr

/- The wording of a fault. -/
def OpeningFault.message : OpeningFault → String
| noTitle =>
    "A title must be provided for OpenAPI, e.g.: 'My API'"
| noVersion =>
    "A version must be provided for OpenAPI, e.g.: '2.1.0'"

/- What keeps a service with some settings from opening. -/
def Service.openingFault? (s : Settings) : Option OpeningFault :=
  if s.title.isEmpty then some .noTitle
  else if s.version.isEmpty then some .noVersion
  else none

end Termwise
