import Termwise.Equivalence.Check
import Termwise.Print.Typeset
import Termwise.Schema.TreeForm
import Termwise.Syntax.Parse

/-
  This file defines the answers of the service and how they
  are written as JSON values.

  The serialiser of responses is assumed to write every such
  value.  It writes integers of any length, and null for a
  double that is not finite.

  Key definitions include:
    * `ResponseBody`
    * `Response`
    * `Response.invalid`
    * `ServiceFault`
    * `ServiceFault.response`
    * `Tree.view`
    * `Report.toJson`
-/

namespace Termwise

------------------------------------------------------------
-- Responses
------------------------------------------------------------

/- The body of a response. -/
inductive ResponseBody where
| json : Json → ResponseBody
| text : String → ResponseBody
deriving Repr

/- A response with its status code. -/
structure Response where
  status : Nat
  body : ResponseBody
deriving Repr

namespace Response

/- A response that tells one detail. -/
def detail (status : Nat) (j : Json) : Response :=
  ⟨status, .json (.object [("detail", j)])⟩

/- The response to a request that was fulfilled. -/
def fulfilled (j : Json) : Response :=
  ⟨200, .json j⟩

/- The response to a request for another path. -/
def moved : Response :=
  ⟨307, .text ""⟩

/- The response to a request that could not be met. -/
def internal : Response :=
  ⟨500, .text "Internal Server Error"⟩

/- The response to an evaluation that should not fail. -/
def evaluationFailed (message : String) : Response :=
  detail 500 (.text message)

end Response

------------------------------------------------------------
-- Issues
------------------------------------------------------------

/- An issue as a JSON value. -/
def Issue.toJson (i : Issue) : Json :=
  match i.kind with
  | .jsonInvalid => .object [("type", .text i.kind.code)]
  | kind =>
      .object
        [("type", .text kind.code),
         ("loc", .list (i.place.map .text)),
         ("msg", .text kind.message)]

/-
  The response to a request with issues.  They are told
  together with what they are about; if that cannot be
  written, the response fails.
-/
def Response.invalid (issues : List Issue) : Response :=
  if issues.all Issue.isWritable then
    detail 422 (.list (issues.map Issue.toJson))
  else internal

------------------------------------------------------------
-- Faults
------------------------------------------------------------

/- What can stop the service from fulfilling a request. -/
inductive ServiceFault where
| expression : SyntaxFault → ServiceFault
| config : ConfigFault → ServiceFault
| overlong : Overlong → ServiceFault
| check : CheckFault → ServiceFault
| unwritable : ServiceFault
deriving DecidableEq, Repr

/- A text, or null where there is none. -/
def textOrNull : Option String → Json
| some s => .text s
| none => .null

/- A position, or null where there is none. -/
def positionOrNull : Option Nat → Json
| some n => .int n
| none => .null

/- A fault in the text of an expression as a JSON value. -/
def SyntaxFault.toJson (f : SyntaxFault) : Json :=
  .object
    [("detail", .text f.message),
     ("found", textOrNull f.found),
     ("position", positionOrNull f.position),
     ("expected", textOrNull (f.expected.map Expected.text))]

/- The response to a fault. -/
def ServiceFault.response : ServiceFault → Response
| expression f => ⟨422, .json f.toJson⟩
| check (.unbound x) =>
    .evaluationFailed (CheckFault.unbound x).message
| _ => .internal

------------------------------------------------------------
-- Views
------------------------------------------------------------

/- The two written forms of a tree. -/
def Tree.forms (t : Tree) :
    Except Overlong (List (String × Json)) :=
  match t.toInfix, t.toTypeset with
  | .ok infixForm, .ok typeset =>
      .ok
        [("infix", .text infixForm),
         ("typeset", .text typeset)]
  | .error e, _ => .error e
  | _, .error e => .error e

/- A tree with its written forms as a JSON value. -/
def Tree.view (t : Tree) : Except Overlong Json :=
  t.forms.map fun forms => .object (("tree", t.toJson) :: forms)

/- A double, or what the serialiser writes in its place. -/
def finiteOrNull : Double → Json
| .finite negative m e => .float (.finite negative m e)
| _ => .null

/- A counterexample as a JSON value. -/
def Counterexample.toJson (c : Counterexample) : Json :=
  .object
    [("assignment",
      .object (c.assignment.map fun (x, n) => (x, .int n))),
     ("value1", finiteOrNull c.left),
     ("value2", finiteOrNull c.right)]

/- A report as a JSON value. -/
def Report.toJson (r : Report) : Json :=
  .object
    [("equivalent", .bool r.equivalent),
     ("variables", .list (r.names.map .text)),
     ("trials_run", .int r.trialsRun),
     ("trials_skipped", .int r.trialsSkipped),
     ("counterexample",
      match r.counterexample with
      | some c => c.toJson
      | none => .null)]

end Termwise
