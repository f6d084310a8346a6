import Termwise.Proofs.Schema.Writable
import Termwise.Proofs.Syntax.Leaves
import Termwise.Service.Submission

/-
  What is submitted in a body without long integers resolves
  to trees that can be written.  In a body that can be
  written nothing submitted is broken, and everything that
  is wrong with it can be told.

  Key definitions include:
    * `Submission.Sound`

  Main declarations:
    * `Submission.of_choose`
    * `Submission.sound_of_ofJson`
    * `Submission.tellable_ofJson`
    * `ReduceBody.tellable_ofJson`
    * `CompareBody.tellable_ofJson`
-/

namespace Termwise

------------------------------------------------------------
-- Fields
------------------------------------------------------------

/- A field that may be missing is read or has its default. -/
theorem defaulted_eq_ok
    {α : Type}
    {key : String}
    {fields : List (String × Json)}
    {rule : Json → Checked α}
    {default x : α}
    (h : defaulted key fields rule default = .ok x) :
    x = default ∨
      ∃ v, Json.lookup? key fields = some v ∧
        rule v = .ok x := by
  unfold defaulted at h
  split at h
  · cases h
    exact .inl rfl
  · next v hField =>
      exact .inr ⟨v, hField, Checked.under_eq_ok.mp h⟩

/- Fields are read alike where they have the same value. -/
theorem defaulted_congr
    {α : Type}
    {key : String}
    {fields fields₂ : List (String × Json)}
    (h :
      Json.lookup? key fields = Json.lookup? key fields₂)
    (rule : Json → Checked α)
    (default : α) :
    defaulted key fields rule default =
      defaulted key fields₂ rule default := by
  simp only [defaulted, h]

/- What is taken for a value that may be null is a value. -/
theorem Scalar.optional_eq_some
    {ε α : Type}
    {rule : Json → Except ε α}
    {j : Json}
    {x : α}
    (h : optional rule j = .ok (some x)) :
    rule j = .ok x := by
  unfold optional at h
  split at h
  · cases h
  · split at h
    · next y hRule =>
        cases h
        exact hRule
    · cases h

/- A value that may be null, but is not, is one or an issue. -/
theorem Scalar.optional_of_ne_null
    {ε α : Type}
    {j : Json}
    (rule : Json → Except ε α)
    (h : j ≠ .null) :
    optional rule j = (rule j).map some := by
  unfold optional
  split
  · exact absurd rfl h
  · split
    · next x hRule =>
        rw [hRule]
        rfl
    · next e hRule =>
        rw [hRule]
        rfl

/- Only an object has fields. -/
theorem objectFields_eq_ok
    {j : Json}
    {fields : List (String × Json)}
    (h : objectFields j = .ok fields) :
    j = .object fields := by
  unfold objectFields at h
  split at h
  · cases h
    rfl
  · cases h

/-
  What is read from an object, or refused as no object, can
  be told of a value that can be written if it can be told
  of the fields of an object.
-/
theorem tellable_of_objectFields
    {α : Type}
    {j : Json}
    {rule : List (String × Json) → Checked α}
    (hj : j.isWritable = true)
    (hRule :
      ∀ fields, (Json.object fields).isWritable = true →
        (rule fields).Tellable) :
    Checked.Tellable
      (match objectFields j with
        | .error issues => .error issues
        | .ok fields => rule fields) := by
  cases j with
  | object fields => exact hRule fields hj
  | null | bool | int | float | text | broken | list =>
      exact Checked.tellable_issue hj _

------------------------------------------------------------
-- Submissions
------------------------------------------------------------

namespace Submission

/- What is submitted resolves to what can be written. -/
def Sound (s : Submission) : Prop :=
  ∀ t, s.resolve = .ok t → t.Writable

/- A text is read as a tree that can be written. -/
theorem sound_text (text : String) : Sound (.text text) :=
  fun _ h => writable_of_parse h

section Trees

variable {j : Json} {s : Submission}

/- A submitted tree is read by one of two rules. -/
theorem treeOfJson_eq_ok
    (h : treeOfJson j = .ok s) :
    ∃ rule t, Tree.ofJson rule j = .ok t ∧
      s.resolve = .ok t := by
  unfold treeOfJson at h
  split at h
  · next t hData =>
      cases h
      exact ⟨.data, t, hData, rfl⟩
  · rcases map_eq_ok.mp h with ⟨t, hLoose, rfl⟩
    exact ⟨.loose, t, hLoose, rfl⟩

/- A tree of short integers can be written. -/
theorem sound_of_treeOfJson
    (hShort : Json.Everywhere Json.IsShort j)
    (h : treeOfJson j = .ok s) :
    s.Sound := by
  rcases treeOfJson_eq_ok h with ⟨rule, t, hTree, hResolve⟩
  intro u hu
  rw [hResolve] at hu
  cases hu
  exact Tree.writable_of_ofJson hShort hTree

/- A tree of a value that can be written is not broken. -/
theorem isWritable_of_treeOfJson
    (hj : j.isWritable = true)
    (h : treeOfJson j = .ok s) :
    s.isWritable = true := by
  unfold treeOfJson at h
  split at h
  · cases h
    rfl
  · next issues hData =>
      rw [Tree.ofJson_loose j hj, hData] at h
      cases h

/- What is wrong with such a tree can be told. -/
theorem tellable_treeOfJson
    (hj : j.isWritable = true) :
    (treeOfJson j).Tellable := by
  unfold treeOfJson
  split
  · exact Checked.tellable_ok _
  · exact (Tree.tellable_ofJson .loose j hj).map _

end Trees

section Fields

variable {fields : List (String × Json)}

/-
  What is chosen from the fields is a text, or what is read
  from the field of the tree.
-/
theorem of_choose
    {Q : Submission → Prop}
    (hText : ∀ text, Q (.text text))
    (hTree : ∀ v s,
      Json.lookup? "tree" fields = some v →
      treeOfJson v = .ok s → Q s)
    {s? : Option String}
    {t? : Option Submission}
    {s : Submission}
    (hParts : parts fields = .ok (s?, t?))
    (h : choose fields s? t? = .ok s) :
    Q s := by
  unfold choose at h
  split at h
  · cases h
    exact hText _
  · cases h
    rcases defaulted_eq_ok (Checked.both_eq_ok.mp hParts).2
      with hNone | ⟨v, hField, hRead⟩
    · cases hNone
    · exact hTree v s hField (Scalar.optional_eq_some hRead)
  · cases h

/- It resolves to what can be written if numbers are short. -/
theorem sound_of_choose
    (hShort : Json.Everywhere Json.IsShort (.object fields))
    {s? : Option String}
    {t? : Option Submission}
    {s : Submission}
    (hParts : parts fields = .ok (s?, t?))
    (h : choose fields s? t? = .ok s) :
    s.Sound := by
  refine of_choose sound_text ?_ hParts h
  intro v s hField hRead
  exact sound_of_treeOfJson
    (Json.everywhere_of_lookup? hShort hField) hRead

variable (hFields : (Json.object fields).isWritable = true)

include hFields

/- It is not broken if the fields can be written. -/
theorem isWritable_of_choose
    {s? : Option String}
    {t? : Option Submission}
    {s : Submission}
    (hParts : parts fields = .ok (s?, t?))
    (h : choose fields s? t? = .ok s) :
    s.isWritable = true := by
  refine of_choose (Q := fun s => s.isWritable = true)
    (fun _ => rfl) ?_ hParts h
  intro v s hField hRead
  exact isWritable_of_treeOfJson
    (Json.isWritable_of_lookup? hFields hField) hRead

/- What is wrong with one of the fields can be told. -/
theorem tellable_parts : (parts fields).Tellable := by
  refine .both (Checked.tellable_defaulted hFields ?_ _)
    (Checked.tellable_defaulted hFields ?_ _)
  · intro v hv
    exact Checked.tellable_taken hv _
  · intro v hv
    exact Checked.tellable_optional (tellable_treeOfJson hv)

/- So can what is wrong with both of them. -/
theorem tellable_choose
    (s? : Option String)
    (t? : Option Submission) :
    (choose fields s? t?).Tellable := by
  unfold choose
  split
  · exact Checked.tellable_ok _
  · exact Checked.tellable_ok _
  · exact Checked.tellable_issue hFields _

end Fields

/- A submission is read from its parts. -/
theorem ofJson_eq_ok
    {j : Json}
    {s : Submission}
    (h : ofJson j = .ok s) :
    ∃ fields s? t?, j = .object fields ∧
      parts fields = .ok (s?, t?) ∧
      choose fields s? t? = .ok s := by
  unfold ofJson at h
  split at h
  · cases h
  · next fields hFields =>
      unfold ofFields at h
      split at h
      · cases h
      · next s? t? hParts =>
          exact ⟨fields, s?, t?, objectFields_eq_ok hFields,
            hParts, h⟩

/- What is read from short integers can be written. -/
theorem sound_of_ofJson
    {j : Json}
    {s : Submission}
    (hShort : Json.Everywhere Json.IsShort j)
    (h : ofJson j = .ok s) :
    s.Sound := by
  rcases ofJson_eq_ok h with
    ⟨fields, s?, t?, rfl, hParts, hChoose⟩
  exact sound_of_choose hShort hParts hChoose

/- What is read from a writable value is not broken. -/
theorem isWritable_of_ofJson
    {j : Json}
    {s : Submission}
    (hj : j.isWritable = true)
    (h : ofJson j = .ok s) :
    s.isWritable = true := by
  rcases ofJson_eq_ok h with
    ⟨fields, s?, t?, rfl, hParts, hChoose⟩
  exact isWritable_of_choose hj hParts hChoose

/- What is wrong with a writable value can be told. -/
theorem tellable_ofJson
    {j : Json}
    (hj : j.isWritable = true) :
    (ofJson j).Tellable := by
  refine tellable_of_objectFields hj fun fields hFields => ?_
  have hParts := tellable_parts hFields
  unfold ofFields
  split
  · next issues hRead =>
      rw [hRead] at hParts
      exact hParts.retype
  · exact tellable_choose hFields _ _

end Submission

------------------------------------------------------------
-- Bodies
------------------------------------------------------------

/- What is wrong with a text by itself can be told. -/
theorem ParseBody.tellable_ofJson
    {j : Json}
    (hj : j.isWritable = true) :
    (ParseBody.ofJson j).Tellable := by
  refine tellable_of_objectFields hj fun fields hFields => ?_
  refine Checked.tellable_required hFields ?_
  intro v _ hv
  exact Checked.tellable_taken hv _

namespace ReduceBody

/- A body to reduce is read from its parts. -/
theorem ofJson_eq_ok
    {j : Json}
    {b : ReduceBody}
    (h : ofJson j = .ok b) :
    ∃ fields s? t?, j = .object fields ∧
      Submission.parts fields = .ok (s?, t?) ∧
      Submission.choose fields s? t? = .ok b.expression := by
  unfold ofJson at h
  split at h
  · cases h
  · next fields hFields =>
      split at h
      · cases h
      · next s? t? steps hBoth =>
          rcases map_eq_ok.mp h with
            ⟨e, hChoose, rfl⟩
          exact ⟨fields, s?, t?, objectFields_eq_ok hFields,
            (Checked.both_eq_ok.mp hBoth).1, hChoose⟩

/- Its expression is not broken if it can be written. -/
theorem isWritable_of_ofJson
    {j : Json}
    {b : ReduceBody}
    (hj : j.isWritable = true)
    (h : ofJson j = .ok b) :
    b.expression.isWritable = true := by
  rcases ofJson_eq_ok h with
    ⟨fields, s?, t?, rfl, hParts, hChoose⟩
  exact Submission.isWritable_of_choose hj hParts hChoose

/- What is wrong with it can be told then. -/
theorem tellable_ofJson
    {j : Json}
    (hj : j.isWritable = true) :
    (ofJson j).Tellable := by
  refine tellable_of_objectFields hj fun fields hFields => ?_
  have hSteps :
      (defaulted "steps" fields
        (Checked.taken Scalar.truth) false).Tellable :=
    Checked.tellable_defaulted hFields
      (fun v hv => Checked.tellable_taken hv _) false
  have hBoth := (Submission.tellable_parts hFields).both hSteps
  split
  · next issues hRead =>
      rw [hRead] at hBoth
      exact hBoth.retype
  · exact (Submission.tellable_choose hFields _ _).map _

end ReduceBody

namespace CompareBody

/- A body to compare is read from its fields. -/
theorem ofJson_eq_ok
    {j : Json}
    {b : CompareBody}
    (h : ofJson j = .ok b) :
    ∃ fields v w, j = .object fields ∧
      Json.lookup? "expr1" fields = some v ∧
      Submission.ofJson v = .ok b.left ∧
      Json.lookup? "expr2" fields = some w ∧
      Submission.ofJson w = .ok b.right ∧
      ∀ n ∈ b.trials, 1 ≤ n ∧ n ≤ 1000 := by
  unfold ofJson at h
  split at h
  · cases h
  · next fields hFields =>
      rcases map_eq_ok.mp h with
        ⟨⟨left, right, seed, trials⟩, hAll, rfl⟩
      rcases Checked.both_eq_ok.mp hAll with ⟨hLeft, hRest⟩
      rcases Checked.both_eq_ok.mp hRest with ⟨hRight, hRest₂⟩
      rcases Checked.both_eq_ok.mp hRest₂ with ⟨_, hTrials⟩
      rcases required_eq_ok hLeft with ⟨v, hField, hRead⟩
      rcases required_eq_ok hRight with ⟨w, hField₂, hRead₂⟩
      refine ⟨fields, v, w, objectFields_eq_ok hFields, hField,
        hRead, hField₂, hRead₂, ?_⟩
      intro n hn
      rcases defaulted_eq_ok hTrials with
        hNone | ⟨u, _, hTaken⟩
      · rw [hNone] at hn
        cases hn
      · have hSome : trials = some n := hn
        rw [hSome] at hTaken
        have hBetween := Scalar.optional_eq_some
          (Checked.taken_eq_ok.mp hTaken)
        exact (Scalar.integerBetween_eq_ok hBetween).2

/- The number of trials is one that may be asked for. -/
theorem trials_le
    {j : Json}
    {b : CompareBody}
    (h : ofJson j = .ok b) :
    ∀ n ∈ b.trials, 1 ≤ n ∧ n ≤ 1000 := by
  rcases ofJson_eq_ok h with ⟨_, _, _, _, _, _, _, _, hTrials⟩
  exact hTrials

/- Its expressions are not broken if it can be written. -/
theorem isWritable_of_ofJson
    {j : Json}
    {b : CompareBody}
    (hj : j.isWritable = true)
    (h : ofJson j = .ok b) :
    b.left.isWritable = true ∧ b.right.isWritable = true := by
  rcases ofJson_eq_ok h with
    ⟨fields, v, w, rfl, hField, hLeft, hField₂, hRight, _⟩
  exact ⟨Submission.isWritable_of_ofJson
      (Json.isWritable_of_lookup? hj hField) hLeft,
    Submission.isWritable_of_ofJson
      (Json.isWritable_of_lookup? hj hField₂) hRight⟩

/- What is wrong with it can be told then. -/
theorem tellable_ofJson
    {j : Json}
    (hj : j.isWritable = true) :
    (ofJson j).Tellable := by
  refine tellable_of_objectFields hj fun fields hFields => ?_
  have hTaken : ∀ {α : Type}
      (rule : Json → Except IssueKind α) (v : Json),
      v.isWritable = true → (Checked.taken rule v).Tellable :=
    fun rule v hv => Checked.tellable_taken hv rule
  refine Checked.Tellable.map (.both
    (Checked.tellable_required hFields ?_) (.both
      (Checked.tellable_required hFields ?_) (.both
        (Checked.tellable_defaulted hFields (hTaken _) _)
        (Checked.tellable_defaulted hFields (hTaken _) _)))) _
  · exact fun v _ hv => Submission.tellable_ofJson hv
  · exact fun v _ hv => Submission.tellable_ofJson hv

end CompareBody

end Termwise
