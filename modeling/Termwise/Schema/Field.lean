import Termwise.Json.Basic
import Termwise.Schema.Issue

/-
  This file defines how the fields of an object are read.

  Key definitions include:
    * `required`
    * `defaulted`
    * `objectFields`
-/

namespace Termwise

/- Read a field that has to be there. -/
def required
    {α : Type}
    (key : String)
    (fields : List (String × Json))
    (rule :
      (v : Json) → Json.lookup? key fields = some v → Checked α) :
    Checked α :=
  match h : Json.lookup? key fields with
  | none => .error [⟨.missing, [key], .object fields⟩]
  | some v => Checked.under key (rule v h)

/- Read a field that has a value unless one is given. -/
def defaulted
    {α : Type}
    (key : String)
    (fields : List (String × Json))
    (rule : Json → Checked α)
    (default : α) : Checked α :=
  match Json.lookup? key fields with
  | none => .ok default
  | some v => Checked.under key (rule v)

/- The fields of a value that has to be an object. -/
def objectFields : Json → Checked (List (String × Json))
| .object fields => .ok fields
| j => .issue .notAttributes j

end Termwise
