import Termwise.Proofs.Equivalence.Interchange
import Termwise.Proofs.Reduction.Steps
import Termwise.Proofs.Service.Bodies
import Termwise.Service.Serve

/-
  Trees that can be written are shown, so that an answer
  fails for few reasons: something submitted is broken, or a
  number in a reduction is too long.

  Key definitions include:
    * `Tree.formFields`
    * `Tree.shown`
    * `Service.Breaks`

  Main declarations:
    * `Service.breaks_resolved`
    * `Service.breaks_writable`
    * `Service.breaks_written`
    * `Service.not_breaks_parseAnswer`
    * `Service.breaks_renderAnswer`
    * `Service.breaks_reduceAnswer`
    * `Service.breaks_compareAnswer`
-/

namespace Termwise

------------------------------------------------------------
-- Views
------------------------------------------------------------

namespace Tree

/- The fields with the two written forms of a tree. -/
def formFields (t : Tree) : List (String × Json) :=
  [("infix", .text (String.ofList t.infixChars)),
   ("typeset", .text (String.ofList t.typesetChars))]

/- A tree with its written forms, however long. -/
def shown (t : Tree) : Json :=
  .object (("tree", t.toJson) :: t.formFields)

/- A tree that can be written has its forms. -/
theorem forms_eq
    {t : Tree}
    (h : t.Writable) :
    t.forms = .ok t.formFields := by
  rw [forms, toInfix, toTypeset, writeBy, if_pos h, writeBy,
    if_pos h]
  rfl

/- No forms are there of a tree that cannot be written. -/
theorem forms_eq_ok
    {t : Tree}
    {forms : List (String × Json)}
    (h : t.forms = .ok forms) :
    forms = t.formFields := by
  by_cases hWritable : t.Writable
  · rw [forms_eq hWritable] at h
    cases h
    rfl
  · rw [Tree.forms, toInfix, writeBy, if_neg hWritable] at h
    cases h

/- It is shown with them. -/
theorem view_eq
    {t : Tree}
    (h : t.Writable) :
    t.view = .ok t.shown := by
  rw [view, forms_eq h]
  rfl

end Tree

------------------------------------------------------------
-- Faults
------------------------------------------------------------

/- A fault is the client's, or the request is not met. -/
theorem ServiceFault.status_eq (f : ServiceFault) :
    f.response.status = 422 ∨ f.response.status = 500 := by
  cases f with
  | expression g => exact .inl rfl
  | config g | overlong g | unwritable => exact .inr rfl
  | check g =>
      cases g with
      | tolerance g | unbound x => exact .inr rfl

namespace Service

/- An answer fails for a reason that is not the client's. -/
def Breaks (answer : Except ServiceFault Json) : Prop :=
  ∃ f, answer = .error f ∧ f.response.status = 500

/- No answer that is given fails. -/
theorem not_breaks_ok (j : Json) : ¬ Breaks (.ok j) := by
  rintro ⟨f, hError, _⟩
  cases hError

section Parts

variable {α : Type}

/- What follows a tree fails only if there is one. -/
theorem breaks_resolved
    {s : Submission}
    {next : Tree → Except ServiceFault Json} :
    Breaks (resolved s >>= next) ↔
      ∃ t, s.resolve = .ok t ∧ Breaks (next t) := by
  unfold resolved
  cases s.resolve with
  | ok t =>
      constructor
      · intro h
        exact ⟨t, rfl, h⟩
      · rintro ⟨u, hSame, h⟩
        cases hSame
        exact h
  | error f =>
      constructor
      · rintro ⟨g, hError, hStatus⟩
        cases hError
        cases hStatus
      · rintro ⟨u, hSame, _⟩
        cases hSame

/- What is broken stops an answer before it is shown. -/
theorem breaks_writable
    {es : List Submission}
    {next : Unit → Except ServiceFault Json} :
    Breaks (writable es >>= next) ↔
      es.all Submission.isWritable = false ∨
        Breaks (next ()) := by
  unfold writable
  cases es.all Submission.isWritable with
  | true =>
      constructor
      · exact .inr
      · rintro (hFalse | h)
        · cases hFalse
        · exact h
  | false => exact iff_of_true ⟨_, rfl, rfl⟩ (.inl rfl)

/- What cannot be written out stops an answer. -/
theorem breaks_written
    {a : Except Overlong α}
    {next : α → Except ServiceFault Json} :
    Breaks (written a >>= next) ↔
      a = .error .number ∨
        ∃ x, a = .ok x ∧ Breaks (next x) := by
  unfold written
  cases a with
  | ok x =>
      constructor
      · intro h
        exact .inr ⟨x, rfl, h⟩
      · rintro (hError | ⟨y, hSame, h⟩)
        · cases hError
        · cases hSame
          exact h
  | error e =>
      cases e
      exact iff_of_true ⟨_, rfl, rfl⟩ (.inl rfl)

/- What is written out leaves the rest of an answer. -/
theorem breaks_written_ok
    {x : α}
    {next : α → Except ServiceFault Json} :
    Breaks (written (.ok x) >>= next) ↔ Breaks (next x) :=
  Iff.rfl

end Parts

------------------------------------------------------------
-- Answers
------------------------------------------------------------

/- The answer to a text never fails. -/
theorem not_breaks_parseAnswer (text : String) :
    ¬ Breaks (parseAnswer text) := by
  unfold parseAnswer
  rw [breaks_resolved]
  rintro ⟨t, hParse, hBreaks⟩
  rw [Tree.view_eq (writable_of_parse hParse)] at hBreaks
  exact not_breaks_ok _ hBreaks

/- A broken submission resolves to a tree. -/
theorem exists_resolve_eq_ok
    {s : Submission}
    (h : s.isWritable = false) :
    ∃ t, s.resolve = .ok t := by
  cases s with
  | brokenTree t => exact ⟨t, rfl⟩
  | text | tree => cases h

/- The written forms fail if the submission is broken. -/
theorem breaks_renderAnswer
    {s : Submission}
    (hSound : s.Sound) :
    Breaks (renderAnswer s) ↔ s.isWritable = false := by
  unfold renderAnswer
  rw [breaks_resolved]
  constructor
  · rintro ⟨t, hResolve, hBreaks⟩
    rw [breaks_writable] at hBreaks
    rcases hBreaks with hBroken | hForms
    · rwa [List.all_cons, List.all_nil, Bool.and_true]
        at hBroken
    · rw [Tree.forms_eq (hSound t hResolve)] at hForms
      exact absurd hForms (not_breaks_ok _)
  · intro hBroken
    rcases exists_resolve_eq_ok hBroken with ⟨t, hResolve⟩
    refine ⟨t, hResolve, breaks_writable.mpr (.inl ?_)⟩
    rw [List.all_cons, hBroken]
    rfl

/-
  A reduction fails if the expression is broken, or if its
  trace fails.  The result of a trace can be written.
-/
theorem breaks_reduceAnswer
    {b : ReduceBody} :
    Breaks (reduceAnswer b) ↔
      ∃ t, b.expression.resolve = .ok t ∧
        (b.expression.isWritable = false ∨
          t.trace = .error .number) := by
  unfold reduceAnswer
  rw [breaks_resolved]
  refine exists_congr fun t => and_congr_right fun _ => ?_
  rw [breaks_writable, breaks_written, List.all_cons,
    List.all_nil, Bool.and_true]
  refine or_congr Iff.rfl ?_
  constructor
  · rintro (hTrace | ⟨r, hTrace, hViews⟩)
    · exact hTrace
    · rcases Tree.trace_eq_ok.mp hTrace with
        ⟨⟨hTree, hReduced, _⟩, rfl⟩
      rw [Tree.view_eq hTree, breaks_written_ok,
        Tree.view_eq hReduced] at hViews
      exact absurd hViews (not_breaks_ok _)
  · exact .inl

end Service

------------------------------------------------------------
-- Comparisons
------------------------------------------------------------

/- Only values that make sense are settings of a check. -/
theorem Config.make_eq_ok
    {trials low high : Int}
    {tolerance : Double}
    {cfg : Config}
    (h : make trials low high tolerance = .ok cfg) :
    0 < trials ∧ low < high ∧
      cfg.trials = trials.toNat ∧ cfg.low = low ∧
      cfg.high = high ∧ cfg.tolerance = tolerance := by
  unfold make at h
  split at h
  · next hTrials =>
      split at h
      · next hRange =>
          cases h
          exact ⟨hTrials, hRange, rfl, rfl, rfl, rfl⟩
      · cases h
  · cases h

/- Settings that make a check make one of other trials. -/
theorem Settings.exists_config
    {s : Settings}
    {cfg : Config}
    {trials : Option Int}
    (hConfig : s.config none = .ok cfg)
    (hTrials : ∀ n ∈ trials, 1 ≤ n) :
    ∃ cfg₂, s.config trials = .ok cfg₂ ∧
      cfg₂.tolerance = s.tolerance := by
  rcases Config.make_eq_ok hConfig with ⟨hOwn, hRange, _⟩
  have hPositive : 0 < trials.getD s.trials := by
    cases trials with
    | none => exact hOwn
    | some n => exact hTrials n rfl
  unfold config Config.make
  rw [dif_pos hPositive, dif_pos hRange]
  exact ⟨_, rfl, rfl⟩

/-
  A comparison fails if both expressions are there and one
  of them is broken.  The settings are those of a check, and
  their tolerance can be compared with.
-/
theorem Service.breaks_compareAnswer
    {s : Settings}
    {cfg : Config}
    {b : CompareBody}
    (fresh : Twister)
    (hConfig : s.config none = .ok cfg)
    (hTolerance : s.tolerance.isFinite = true)
    (hTrials : ∀ n ∈ b.trials, 1 ≤ n) :
    Breaks (compareAnswer s fresh b) ↔
      ∃ t u, b.left.resolve = .ok t ∧
        b.right.resolve = .ok u ∧
        (b.left.isWritable && b.right.isWritable) = false := by
  rcases Settings.exists_config hConfig hTrials with
    ⟨cfg₂, hChecked, hSame⟩
  rcases Double.exists_toRat? hTolerance with ⟨q, hValue⟩
  rw [← hSame] at hValue
  unfold compareAnswer
  rw [breaks_resolved]
  refine exists_congr fun t => ?_
  rw [exists_and_left]
  refine and_congr_right fun _ => ?_
  rw [breaks_resolved]
  refine exists_congr fun u => and_congr_right fun _ => ?_
  rw [breaks_writable, List.all_cons, List.all_cons,
    List.all_nil, Bool.and_true]
  constructor
  · rintro (hBroken | hCheck)
    · exact hBroken
    · rcases exists_check_eq_ok hValue t u
          (s.source b.seed fresh) with
        ⟨report, source, hReport⟩
      rw [hChecked] at hCheck
      change Breaks
        ((check cfg₂ t u (s.source b.seed fresh)).1.mapError
          ServiceFault.check >>= _) at hCheck
      rw [hReport] at hCheck
      exact absurd hCheck (not_breaks_ok _)
  · exact .inl

end Termwise
