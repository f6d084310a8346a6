import Termwise.Proofs.Json.Everywhere
import Termwise.Proofs.Result
import Termwise.Schema.Field
import Termwise.Schema.Scalar

/-
  What is read from a value that can be written has issues
  only with values that can be written, and what is read with
  success is read from fields that are there.

  Key definitions include:
    * `Checked.Tellable`

  Main declarations:
    * `Checked.under_eq_ok`
    * `required_eq_ok`
    * `Checked.tellable_required`
    * `Checked.tellable_defaulted`
-/

namespace Termwise

------------------------------------------------------------
-- Results
------------------------------------------------------------

namespace Checked

variable {α β : Type}

/- A name in front changes no result. -/
theorem under_eq_ok
    {part : String}
    {c : Checked α}
    {x : α} :
    under part c = .ok x ↔ c = .ok x := by
  cases c with
  | ok y => exact Iff.rfl
  | error issues =>
      constructor
      · intro h
        cases h
      · intro h
        cases h

/- Two results are one of each. -/
theorem both_eq_ok
    {a : Checked α}
    {b : Checked β}
    {x : α}
    {y : β} :
    both a b = .ok (x, y) ↔ a = .ok x ∧ b = .ok y := by
  cases a with
  | ok x' =>
      cases b with
      | ok y' => simp [both]
      | error js => simp [both]
  | error is =>
      cases b with
      | ok y' => simp [both]
      | error js => simp [both]

/- What is taken is what the rule takes. -/
theorem taken_eq_ok
    {rule : Json → Except IssueKind α}
    {j : Json}
    {x : α} :
    taken rule j = .ok x ↔ rule j = .ok x := by
  unfold taken
  cases rule j with
  | ok y =>
      constructor
      · intro h
        cases h
        rfl
      · intro h
        cases h
        rfl
  | error kind =>
      constructor
      · intro h
        cases h
      · intro h
        cases h

end Checked

/- A field that has to be there is read from its value. -/
theorem required_eq_ok
    {α : Type}
    {key : String}
    {fields : List (String × Json)}
    {rule :
      (v : Json) → Json.lookup? key fields = some v → Checked α}
    {x : α}
    (h : required key fields rule = .ok x) :
    ∃ v, ∃ hField : Json.lookup? key fields = some v,
      rule v hField = .ok x := by
  unfold required at h
  split at h
  · cases h
  · next v hField =>
      exact ⟨v, hField, Checked.under_eq_ok.mp h⟩

/- A field that is there is read by its rule. -/
theorem required_eq
    {α : Type}
    {key : String}
    {fields : List (String × Json)}
    {v : Json}
    {rule :
      (v : Json) → Json.lookup? key fields = some v → Checked α}
    (h : Json.lookup? key fields = some v) :
    required key fields rule = Checked.under key (rule v h) := by
  unfold required
  split
  · next hNone =>
      rw [h] at hNone
      cases hNone
  · next w hSome =>
      rw [h] at hSome
      cases hSome
      rfl

/- A value that is found in a writable object is writable. -/
theorem Json.isWritable_of_lookup?
    {key : String}
    {fields : List (String × Json)}
    {v : Json}
    (hObject : (Json.object fields).isWritable = true)
    (h : lookup? key fields = some v) :
    v.isWritable = true :=
  (isWritable_iff v).mpr
    (everywhere_of_lookup? ((isWritable_iff _).mp hObject) h)

------------------------------------------------------------
-- Issues
------------------------------------------------------------

namespace Checked

variable {α β : Type}

/- Everything that is wrong can be told with its subject. -/
def Tellable (c : Checked α) : Prop :=
  ∀ issues, c = .error issues →
    issues.all Issue.isWritable = true

/- There is nothing to tell of a result. -/
theorem tellable_ok (x : α) : Tellable (.ok x) := by
  intro issues h
  cases h

/- Issues are told if each of them can be told. -/
theorem tellable_error {issues : List Issue} :
    Tellable (.error issues : Checked α) ↔
      issues.all Issue.isWritable = true := by
  constructor
  · exact fun h => h issues rfl
  · intro h others hSame
    cases hSame
    exact h

/- An issue with a writable value can be told. -/
theorem tellable_issue
    {j : Json}
    (hj : j.isWritable = true)
    (kind : IssueKind) :
    Tellable (issue kind j : Checked α) := by
  intro issues h
  cases h
  simp [Issue.isWritable, hj]

/- So can an issue with a writable value that is taken. -/
theorem tellable_taken
    {j : Json}
    (hj : j.isWritable = true)
    (rule : Json → Except IssueKind α) :
    Tellable (taken rule j) := by
  unfold taken
  cases rule j with
  | ok x => exact tellable_ok x
  | error kind => exact tellable_issue hj kind

/- Issues are told alike whatever is read. -/
theorem Tellable.retype
    {issues : List Issue}
    (h : Tellable (.error issues : Checked α)) :
    Tellable (.error issues : Checked β) := by
  intro others hSame
  cases hSame
  exact h issues rfl

/- A result that is changed keeps its issues. -/
theorem Tellable.map
    {c : Checked α}
    (h : c.Tellable)
    (f : α → β) :
    Tellable (c.map f) := by
  cases c with
  | ok x => exact tellable_ok (f x)
  | error issues => exact h.retype

/- The issues of two values are told together. -/
theorem Tellable.both
    {a : Checked α}
    {b : Checked β}
    (hLeft : a.Tellable)
    (hRight : b.Tellable) :
    Tellable (both a b) := by
  intro issues h
  cases a with
  | ok x =>
      cases b with
      | ok y => cases h
      | error js =>
          cases h
          exact hRight _ rfl
  | error is =>
      cases b with
      | ok y =>
          cases h
          exact hLeft _ rfl
      | error js =>
          cases h
          rw [List.all_append, hLeft _ rfl, hRight _ rfl]
          rfl

/- A name in front leaves the subjects of issues. -/
theorem all_isWritable_under
    (part : String)
    (issues : List Issue) :
    (issues.map fun i =>
        (⟨i.kind, part :: i.place, i.subject⟩ : Issue)).all
          Issue.isWritable =
      issues.all Issue.isWritable := by
  rw [List.all_map]
  rfl

/- So issues are told under a name as they are without. -/
theorem Tellable.under
    {c : Checked α}
    (h : c.Tellable)
    (part : String) :
    Tellable (c.under part) := by
  cases c with
  | ok x => exact h
  | error issues =>
      intro others hSame
      cases hSame
      rw [all_isWritable_under]
      exact h issues rfl

section Fields

variable {fields : List (String × Json)}

variable (hFields : (Json.object fields).isWritable = true)

include hFields

/- The issues with a field that has to be there. -/
theorem tellable_required
    {key : String}
    {rule :
      (v : Json) → Json.lookup? key fields = some v → Checked α}
    (hRule : ∀ v h, v.isWritable = true → (rule v h).Tellable) :
    Tellable (required key fields rule) := by
  unfold required
  split
  · intro issues h
    cases h
    simp [Issue.isWritable, hFields]
  · next v hField =>
      have hValue := Json.isWritable_of_lookup? hFields hField
      exact (hRule v hField hValue).under key

/- The issues with a field that may be missing. -/
theorem tellable_defaulted
    {key : String}
    {rule : Json → Checked α}
    (hRule : ∀ v, v.isWritable = true → (rule v).Tellable)
    (default : α) :
    Tellable (defaulted key fields rule default) := by
  unfold defaulted
  cases hField : Json.lookup? key fields with
  | none => exact tellable_ok default
  | some v =>
      have hValue := Json.isWritable_of_lookup? hFields hField
      exact (hRule v hValue).under key

end Fields

/- The issues with a value that may be null. -/
theorem tellable_optional
    {rule : Json → Checked α}
    {j : Json}
    (hRule : (rule j).Tellable) :
    Tellable (Scalar.optional rule j) := by
  unfold Scalar.optional
  split
  · exact tellable_ok none
  · split
    · exact tellable_ok _
    · next issues hIssues =>
        rw [hIssues] at hRule
        exact hRule.retype

end Checked

end Termwise
