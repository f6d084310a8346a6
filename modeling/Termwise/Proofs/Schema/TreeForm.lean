import Termwise.Print.Limit
import Termwise.Proofs.Json.Reading
import Termwise.Proofs.Schema.Checked
import Termwise.Schema.TreeForm
import Termwise.Tree.Depth

/-
  Trees survive JSON: the value of a tree, and every text
  that the value is written as, is read as the tree.

  Main declarations:
    * `Tree.plain_toJson`
    * `Tree.levels_toJson`
    * `Tree.ofJson_toJson`
    * `Tree.ofDocument_write`
    * `Tree.json_roundTrip`
-/

namespace Termwise

namespace Tree

------------------------------------------------------------
-- Values of Trees
------------------------------------------------------------

/- The value of a tree has as many levels as the tree. -/
theorem levels_toJson (t : Tree) :
    Json.levels t.toJson = t.depth := by
  induction t with
  | num n => rfl
  | var x => rfl
  | neg t ih =>
      simp only [toJson, Json.levels, Json.fieldLevels, ih,
        depth]
      omega
  | bin op l r ihLeft ihRight =>
      simp only [toJson, Json.levels, Json.fieldLevels, ihLeft,
        ihRight, depth]
      omega

/- The value of a tree that can be written is plain. -/
theorem plain_toJson
    (rule : Json.LengthRule)
    {t : Tree}
    (h : t.Writable) :
    Json.Plain rule t.toJson := by
  induction t with
  | num n =>
      simp only [toJson, Json.Plain, Json.PlainFields, and_true,
        true_and]
      exact ⟨by simp, Json.refuses_of_writable rule
        (writable_num.mp h)⟩
  | var x => simp [toJson, Json.Plain, Json.PlainFields]
  | neg t ih =>
      simp only [toJson, Json.Plain, Json.PlainFields, and_true,
        true_and]
      exact ⟨by simp, ih h⟩
  | bin op l r ihLeft ihRight =>
      rcases writable_bin.mp h with ⟨hLeft, hRight⟩
      simp only [toJson, Json.Plain, Json.PlainFields, and_true,
        true_and]
      exact ⟨by simp, ihLeft hLeft, ihRight hRight⟩

------------------------------------------------------------
-- Reading Nodes
------------------------------------------------------------

section Nodes

variable (rule : TreeRule)

variable {fields : List (String × Json)} {v w : Json}

/- A number is read from its value. -/
theorem ofJson_num
    (hTag :
      Json.lookup? "node_type" fields = some (.text "int"))
    (hValue : Json.lookup? "value" fields = some v) :
    ofJson rule (.object fields) =
      Checked.under "int" (Checked.under "value"
        ((Checked.taken (Scalar.integerAtLeast 0) v).map
          fun n => num n.toNat)) := by
  have hKind : NodeKind.ofTag? (.text "int") = some .num := rfl
  rw [ofJson]
  simp only [hTag, hKind]
  rw [required_eq hValue]

/- A variable is read from its name. -/
theorem ofJson_var
    (hTag :
      Json.lookup? "node_type" fields = some (.text "var"))
    (hName : Json.lookup? "name" fields = some v) :
    ofJson rule (.object fields) =
      Checked.under "var" (Checked.under "name"
        ((Checked.taken rule.name v).map var)) := by
  have hKind : NodeKind.ofTag? (.text "var") = some .var := rfl
  rw [ofJson]
  simp only [hTag, hKind]
  rw [required_eq hName]

/- A negation is read from what is negated. -/
theorem ofJson_neg
    (hTag :
      Json.lookup? "node_type" fields = some (.text "neg"))
    (hArg : Json.lookup? "arg" fields = some v) :
    ofJson rule (.object fields) =
      Checked.under "neg" (Checked.under "arg"
        ((ofJson rule v).map neg)) := by
  have hKind : NodeKind.ofTag? (.text "neg") = some .neg := rfl
  rw [ofJson]
  simp only [hTag, hKind]
  rw [required_eq hArg]

/- An operation is read from its operands. -/
theorem ofJson_bin
    {op : Op}
    (hTag :
      Json.lookup? "node_type" fields =
        some (.text (NodeKind.opName op)))
    (hLeft : Json.lookup? "arg1" fields = some v)
    (hRight : Json.lookup? "arg2" fields = some w) :
    ofJson rule (.object fields) =
      Checked.under (NodeKind.opName op)
        ((Checked.both
          (Checked.under "arg1" (ofJson rule v))
          (Checked.under "arg2" (ofJson rule w))).map
            fun (l, r) => bin op l r) := by
  have hKind :
      NodeKind.ofTag? (.text (NodeKind.opName op)) =
        some (.bin op) := by
    cases op <;> rfl
  rw [ofJson]
  simp only [hTag, hKind]
  rw [required_eq hLeft, required_eq hRight]

/- The value of a tree is read as the tree. -/
theorem ofJson_toJson (t : Tree) :
    ofJson rule t.toJson = .ok t := by
  induction t with
  | num n =>
      rw [toJson, ofJson_num (v := .int n) rule rfl rfl,
        Checked.taken, Scalar.integerAtLeast, Scalar.integer]
      simp only [if_neg (Int.not_lt.mpr (Int.natCast_nonneg n))]
      rfl
  | var x =>
      rw [toJson, ofJson_var (v := .text x) rule rfl rfl]
      cases rule <;> rfl
  | neg t ih =>
      rw [toJson, ofJson_neg (v := t.toJson) rule rfl rfl, ih]
      rfl
  | bin op l r ihLeft ihRight =>
      rw [toJson, ofJson_bin (v := l.toJson) (w := r.toJson)
        rule rfl rfl rfl, ihLeft, ihRight]
      rfl

end Nodes

------------------------------------------------------------
-- Documents
------------------------------------------------------------

/-
  The value of a tree, written in any layout, is read as the
  tree if the tree is less deep than documents may be.
-/
theorem ofDocument_write
    (l : Json.Layout)
    {t : Tree}
    (hNumbers : t.Writable)
    (hDepth : t.depth < 200) :
    ofDocument (t.toJson.write l) = .ok t := by
  have hRoom :
      Json.Dialect.document.HasRoom (Json.levels t.toJson) := by
    rw [levels_toJson]
    intro limit hLimit
    cases hLimit
    exact Nat.le_of_lt hDepth
  rw [ofDocument,
    Json.read_write l (t.plain_toJson _ hNumbers) hRoom]
  exact ofJson_toJson .document t

/-
  A tree that can be written, of any names, survives JSON:
  its value, its value on one line and its value on indented
  lines in ASCII are all read as the tree.
-/
theorem json_roundTrip
    {t : Tree}
    (hNumbers : t.Writable)
    (hDepth : t.depth < 200) :
    ofDocument (t.toJson.write .compact) = .ok t ∧
      ofJson .data t.toJson = .ok t ∧
      ofDocument (t.toJson.write .indented) = .ok t :=
  ⟨ofDocument_write .compact hNumbers hDepth,
    ofJson_toJson .data t,
    ofDocument_write .indented hNumbers hDepth⟩

/-
  So does a negated power of ten times a variable whose name
  has a quotation mark, a control character and characters
  inside and beyond the first plane of Unicode.
-/
theorem json_roundTrip_name :
    let t := neg (bin .mul (num (10 ^ 50))
      (var "a\"\\\n\x01\x7fß€😀"))
    t.Writable ∧ t.depth < 200 ∧
      ofDocument (t.toJson.write .compact) = .ok t ∧
      ofJson .data t.toJson = .ok t ∧
      ofDocument (t.toJson.write .indented) = .ok t := by
  intro t
  have hNumbers : t.Writable := by decide +kernel
  have hDepth : t.depth < 200 := by decide
  exact ⟨hNumbers, hDepth, json_roundTrip hNumbers hDepth⟩

end Tree

end Termwise
