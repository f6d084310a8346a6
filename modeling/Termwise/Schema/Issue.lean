import Termwise.Json.Basic
import Termwise.Text.Decimal

/-
  This file defines what can be wrong with given data, and
  where.  The codes and the wordings of most issues are those
  of the validation of data, which is not a part of the
  program; they are assumed to be these.

  Key definitions include:
    * `IssueKind`
    * `IssueKind.code`
    * `IssueKind.message`
    * `Issue`
    * `Issue.isWritable`
    * `Checked`
    * `Checked.taken`
    * `Checked.both`
    * `Checked.under`
-/

namespace Termwise

------------------------------------------------------------
-- Issues
------------------------------------------------------------

/- The names of the kinds of nodes, as messages list them. -/
def nodeNames : List String :=
  ["int", "var", "add", "sub", "mul", "div", "neg"]

/- What is wrong with a value. -/
inductive IssueKind where
| missing
| tagNotFound
| tagInvalid (shown : String)
| notAttributes
| notObject
| intType
| intParsing
| intParsingSize
| intFromFloat
| notFinite
| atLeast (n : Int)
| atMost (n : Int)
| stringType
| stringTooLong (limit : Nat)
| floatType
| floatParsing
| boolType
| boolParsing
| notExactlyOne
| frozen
| jsonInvalid
deriving DecidableEq, Repr

namespace IssueKind

/- The short name of a kind of issue. -/
def code : IssueKind → String
| missing => "missing"
| tagNotFound => "union_tag_not_found"
| tagInvalid _ => "union_tag_invalid"
| notAttributes => "model_attributes_type"
| notObject => "dict_type"
| intType => "int_type"
| intParsing => "int_parsing"
| intParsingSize => "int_parsing_size"
| intFromFloat => "int_from_float"
| notFinite => "finite_number"
| atLeast _ => "greater_than_equal"
| atMost _ => "less_than_equal"
| stringType => "string_type"
| stringTooLong _ => "string_too_long"
| floatType => "float_type"
| floatParsing => "float_parsing"
| boolType => "bool_type"
| boolParsing => "bool_parsing"
| notExactlyOne => "value_error"
| frozen => "frozen_instance"
| jsonInvalid => "json_invalid"

/- Names between apostrophes, with commas. -/
def listed (names : List String) : String :=
  String.intercalate ", "
    (names.map fun x => "'" ++ x ++ "'")

/- The wording of an issue. -/
def message : IssueKind → String
| missing => "Field required"
| tagNotFound =>
    "Unable to extract tag using discriminator 'node_type'"
| tagInvalid shown =>
    "Input tag '" ++ shown ++ "' found using 'node_type' "
      ++ "does not match any of the expected tags: "
      ++ listed nodeNames
| notAttributes =>
    "Input should be a valid dictionary or object "
      ++ "to extract fields from"
| notObject => "Input should be an object"
| intType => "Input should be a valid integer"
| intParsing =>
    "Input should be a valid integer, "
      ++ "unable to parse string as an integer"
| intParsingSize =>
    "Unable to parse input string as an integer, "
      ++ "exceeded maximum size"
| intFromFloat =>
    "Input should be a valid integer, "
      ++ "got a number with a fractional part"
| notFinite => "Input should be a finite number"
| atLeast n =>
    "Input should be greater than or equal to "
      ++ Text.integer n
| atMost n =>
    "Input should be less than or equal to " ++ Text.integer n
| stringType => "Input should be a valid string"
| stringTooLong limit =>
    "String should have at most " ++ Text.natural limit
      ++ " characters"
| floatType => "Input should be a valid number"
| floatParsing =>
    "Input should be a valid number, "
      ++ "unable to parse string as a number"
| boolType => "Input should be a valid boolean"
| boolParsing =>
    "Input should be a valid boolean, "
      ++ "unable to interpret input"
| notExactlyOne =>
    "Value error, Provide exactly one of 'text' or 'tree'."
| frozen => "Instance is frozen"
| jsonInvalid => "Invalid JSON"

end IssueKind

/-
  An issue, the way to it from the outside in, and the value
  that it is about.  If a part is missing, that is the whole
  that the part is missing from.
-/
structure Issue where
  kind : IssueKind
  place : List String
  subject : Json
deriving Repr

/- An issue can be told together with what it is about. -/
def Issue.isWritable (i : Issue) : Bool :=
  i.subject.isWritable

------------------------------------------------------------
-- Checked Values
------------------------------------------------------------

/- A value, or all that is wrong with what was given for it. -/
abbrev Checked (α : Type) :=
  Except (List Issue) α

namespace Checked

variable {α β : Type}

/- One issue with a value itself. -/
def issue (kind : IssueKind) (subject : Json) : Checked α :=
  .error [⟨kind, [], subject⟩]

/- A value that is taken by a rule. -/
def taken
    (rule : Json → Except IssueKind α)
    (j : Json) : Checked α :=
  match rule j with
  | .ok x => .ok x
  | .error kind => issue kind j

/- Two values, or the issues with either in order. -/
def both (a : Checked α) (b : Checked β) : Checked (α × β) :=
  match a, b with
  | .ok x, .ok y => .ok (x, y)
  | .ok _, .error is => .error is
  | .error is, .ok _ => .error is
  | .error is, .error js => .error (is ++ js)

/- A value that stands under a name in something larger. -/
def under (part : String) : Checked α → Checked α
| .ok x => .ok x
| .error is =>
    .error
      (is.map fun i => ⟨i.kind, part :: i.place, i.subject⟩)

end Checked

end Termwise
