import Termwise.Json.Read
import Termwise.Json.Write
import Termwise.Schema.Field
import Termwise.Schema.Scalar
import Termwise.Tree.Basic

/-
  This file defines how trees are written as JSON values and
  read from them.  A node is an object whose field
  `node_type` tells its kind.

  The kinds of nodes, their fields and the bounds of values
  are those of the data model.  What the validation of data
  does with such a model is assumed: a node of an unknown
  kind is one issue, and nothing below it is looked at; the
  fields of a node are checked in the order of the model, and
  the issues with all of them are collected; the way to an
  issue names the kind of each node and the field; and what
  the model does not mention is passed over.

  Key definitions include:
    * `NodeKind`
    * `NodeKind.name`
    * `NodeKind.ofName?`
    * `Tree.toJson`
    * `TreeRule`
    * `Tree.ofJson`
    * `Tree.ofDocument`
    * `NodeKind.build`
-/

namespace Termwise

------------------------------------------------------------
-- Kinds of Nodes
------------------------------------------------------------

/- The kinds of nodes. -/
inductive NodeKind where
| num : NodeKind
| var : NodeKind
| neg : NodeKind
| bin : Op → NodeKind
deriving DecidableEq, Repr

namespace NodeKind

/- The name of an operation. -/
def opName : Op → String
| .add => "add"
| .sub => "sub"
| .mul => "mul"
| .div => "div"

/- The name of a kind of nodes. -/
def name : NodeKind → String
| num => "int"
| var => "var"
| neg => "neg"
| bin op => opName op

/- All kinds of nodes. -/
def all : List NodeKind :=
  [num, var, bin .add, bin .sub, bin .mul, bin .div, neg]

/- The kind of nodes with a name. -/
def ofName? (s : String) : Option NodeKind :=
  all.find? fun k => k.name == s

/- The kind of nodes that a tag tells. -/
def ofTag? : Json → Option NodeKind
| .text s => ofName? s
| _ => none

end NodeKind

------------------------------------------------------------
-- Writing Trees
------------------------------------------------------------

/- A tree as a JSON value. -/
def Tree.toJson : Tree → Json
| .num n =>
    .object
      [("node_type", .text "int"), ("value", .int n)]
| .var x =>
    .object
      [("node_type", .text "var"), ("name", .text x)]
| .neg t =>
    .object
      [("node_type", .text "neg"), ("arg", t.toJson)]
| .bin op l r =>
    .object
      [("node_type", .text (NodeKind.opName op)),
       ("arg1", l.toJson), ("arg2", r.toJson)]

------------------------------------------------------------
-- Reading Trees
------------------------------------------------------------

/-
  How a tree is read: as given data, as a JSON document, or
  loosely, which is as given data except that the names of
  variables may be broken texts.
-/
inductive TreeRule where
| data
| document
| loose
deriving DecidableEq, Repr

namespace TreeRule

/- The issue with a value that is no object. -/
def issue : TreeRule → IssueKind
| data => .notAttributes
| document => .notObject
| loose => .notAttributes

/- The name of a variable.  A broken one gets a stand-in. -/
def name : TreeRule → Json → Taken String
| loose, .broken => .ok Json.brokenText
| _, j => Scalar.text j

end TreeRule

/-
  Read a tree from a JSON value.  It is followed however deep
  it is: that a validation may run out of room on the way is
  not modelled.
-/
def Tree.ofJson (rule : TreeRule) (j : Json) : Checked Tree :=
  match j with
  | .object fields =>
      match Json.lookup? "node_type" fields with
      | none => .issue .tagNotFound (.object fields)
      | some tag =>
          match NodeKind.ofTag? tag with
          | none =>
              .issue (.tagInvalid tag.shown) (.object fields)
          | some .num =>
              Checked.under "int"
                (required "value" fields fun v _ =>
                  (Checked.taken (Scalar.integerAtLeast 0) v).map
                    fun n => Tree.num n.toNat)
          | some .var =>
              Checked.under "var"
                (required "name" fields fun v _ =>
                  (Checked.taken rule.name v).map Tree.var)
          | some .neg =>
              Checked.under "neg"
                (required "arg" fields fun v _ =>
                  (Tree.ofJson rule v).map Tree.neg)
          | some (.bin op) =>
              Checked.under (NodeKind.opName op)
                ((Checked.both
                  (required "arg1" fields fun v _ =>
                    Tree.ofJson rule v)
                  (required "arg2" fields fun v _ =>
                    Tree.ofJson rule v)).map
                  fun (l, r) => Tree.bin op l r)
  | j => .issue rule.issue j
termination_by j
decreasing_by
  all_goals
    rename_i h
    have hlt := Json.sizeOf_lookup?_lt h
    simp only [Json.object.sizeOf_spec]
    omega

/- Read a tree from the text of a JSON document. -/
def Tree.ofDocument (text : String) : Checked Tree :=
  match Json.read .document text with
  | .error _ => .issue .jsonInvalid .null
  | .ok j => Tree.ofJson .document j

------------------------------------------------------------
-- Building Trees
------------------------------------------------------------

/- A part that has to be given. -/
def given
    {α : Type}
    (key : String) : Option α → Checked α
| some x => .ok x
| none => .error [⟨.missing, [key], .null⟩]

/-
  Build a node of a kind from its parts.  Parts that do not
  belong to the kind are not looked at.
-/
def NodeKind.build
    (kind : NodeKind)
    (value name : Option Json)
    (arg arg1 arg2 : Option Tree) : Checked Tree :=
  match kind with
  | num =>
      match value with
      | none => given "value" none
      | some v =>
          Checked.under "value"
            ((Checked.taken (Scalar.integerAtLeast 0) v).map
              fun n => Tree.num n.toNat)
  | var =>
      match name with
      | none => given "name" none
      | some v =>
          Checked.under "name"
            ((Checked.taken Scalar.text v).map Tree.var)
  | neg => (given "arg" arg).map Tree.neg
  | bin op =>
      (Checked.both (given "arg1" arg1) (given "arg2" arg2)).map
        fun (l, r) => Tree.bin op l r

end Termwise
