import Termwise.Proofs.Service.Answers

/-
  The status of an answer.  A request that is posted to the
  service is answered, told what is wrong with it, or, for
  one of few reasons, not met.

  Key definitions include:
    * `Service.outcome`
    * `Endpoint.BreaksOn`

  Main declarations:
    * `Service.status_withBody`
    * `Endpoint.breaksOn_of_isWritable`
    * `Service.status_answerAt`
-/

namespace Termwise

/- Issues are told, or the request is not met. -/
theorem Response.status_invalid (issues : List Issue) :
    (invalid issues).status =
      if issues.all Issue.isWritable then 422 else 500 := by
  unfold invalid
  split
  · rfl
  · rfl

/- A request with issues is not fulfilled. -/
theorem Response.invalid_ne_fulfilled
    (issues : List Issue)
    (j : Json) :
    invalid issues ≠ fulfilled j := by
  intro h
  have hStatus := congrArg Response.status h
  rw [status_invalid] at hStatus
  split at hStatus
  · cases hStatus
  · cases hStatus

namespace Service

------------------------------------------------------------
-- Bodies
------------------------------------------------------------

/- The integers in the body of a request are short. -/
theorem short_of_readBody
    {r : Request}
    {v : Json}
    (h : readBody r = .value v) :
    Json.Everywhere Json.IsShort v := by
  have hRule : Json.Dialect.body.lengths ≠ .noNumbers :=
    Json.LengthRule.noConfusion
  unfold readBody readJson at h
  split at h
  · cases h
  · split at h
    · split at h
      · cases h
      · split at h
        · next hRead =>
            cases h
            exact Json.short_of_readChars hRule hRead
        · cases h
        · cases h
    · cases h

------------------------------------------------------------
-- Outcomes
------------------------------------------------------------

/- The response that an answer or a fault leads to. -/
def outcome : Except ServiceFault Json → Response
| .ok answer => .fulfilled answer
| .error f => f.response

/- An answer is given, or its expression refused, or fails. -/
theorem status_outcome (answer : Except ServiceFault Json) :
    (outcome answer).status ∈ [200, 422, 500] ∧
      ((outcome answer).status = 500 ↔ Breaks answer) := by
  cases answer with
  | ok j =>
      have hStatus : (outcome (.ok j)).status = 200 := rfl
      rw [hStatus]
      exact ⟨by decide,
        iff_of_false (by decide) (not_breaks_ok j)⟩
  | error f =>
      have hBreaks :
          f.response.status = 500 ↔ Breaks (.error f) := by
        constructor
        · exact fun h => ⟨f, rfl, h⟩
        · rintro ⟨g, hSame, h⟩
          cases hSame
          exact h
      refine ⟨?_, hBreaks⟩
      show f.response.status ∈ _
      rcases f.status_eq with h | h
      · rw [h]
        decide
      · rw [h]
        decide

/- Only an answer that is given fulfils a request. -/
theorem outcome_eq_fulfilled
    {answer : Except ServiceFault Json}
    {j : Json}
    (h : outcome answer = .fulfilled j) :
    answer = .ok j := by
  cases answer with
  | ok i =>
      cases h
      rfl
  | error f =>
      have hStatus : f.response.status = 200 :=
        congrArg Response.status h
      rcases f.status_eq with hOther | hOther
      · rw [hStatus] at hOther
        cases hOther
      · rw [hStatus] at hOther
        cases hOther

section Bodies

variable {α : Type} {r : Request}

variable {rule : Json → Checked α}

variable {next : α → Except ServiceFault Json}

variable {v : Json} (hBody : readBody r = .value v)

include hBody

/- The issues with a body are told. -/
theorem withBody_error
    {issues : List Issue}
    (hRule : rule v = .error issues) :
    withBody r rule next =
      .invalid (issues.map fun i =>
        ⟨i.kind, "body" :: i.place, i.subject⟩) := by
  rw [withBody, hBody]
  simp only [hRule, Checked.under]

/- What a body without issues holds is answered. -/
theorem withBody_ok
    {x : α}
    (hRule : rule v = .ok x) :
    withBody r rule next = outcome (next x) := by
  rw [withBody, hBody]
  simp only [hRule, Checked.under]
  cases next x with
  | ok | error => rfl

/- What is read of a body decides how it is answered. -/
theorem status_of_value :
    (withBody r rule next).status ∈ [200, 422, 500] ∧
      ((withBody r rule next).status = 500 ↔
        ¬ (rule v).Tellable ∨
          ∃ x, rule v = .ok x ∧ Breaks (next x)) := by
  cases hRule : rule v with
  | error issues =>
      rw [withBody_error hBody hRule, Response.status_invalid,
        Checked.all_isWritable_under, Checked.tellable_error]
      cases issues.all Issue.isWritable with
      | true =>
          refine ⟨by decide, iff_of_false (by decide) ?_⟩
          rintro (hUntold | ⟨x, hOk, _⟩)
          · exact hUntold rfl
          · cases hOk
      | false =>
          exact ⟨by decide,
            iff_of_true rfl (.inl Bool.noConfusion)⟩
  | ok x =>
      rw [withBody_ok hBody hRule]
      rcases status_outcome (next x) with ⟨hStatus, hFails⟩
      refine ⟨hStatus, hFails.trans ?_⟩
      constructor
      · exact fun h => .inr ⟨x, rfl, h⟩
      · rintro (hUntold | ⟨y, hSame, h⟩)
        · exact absurd (Checked.tellable_ok x) hUntold
        · cases hSame
          exact h

end Bodies

/- Without a value in it a body is refused. -/
theorem status_of_no_value
    {α : Type}
    {r : Request}
    {rule : Json → Checked α}
    {next : α → Except ServiceFault Json}
    (h : ∀ v, readBody r ≠ .value v) :
    (withBody r rule next).status = 400 ∨
      (withBody r rule next).status = 422 := by
  unfold withBody
  cases hBody : readBody r with
  | unreadable => exact .inl rfl
  | absent | foreign | malformed => exact .inr rfl
  | value v => exact absurd hBody (h v)

/-
  A request with a body has one of four statuses.  It is not
  met if what is wrong with the body cannot be told, or if
  the answer to it fails.
-/
theorem status_withBody
    {α : Type}
    (r : Request)
    (rule : Json → Checked α)
    (next : α → Except ServiceFault Json) :
    (withBody r rule next).status ∈ [200, 400, 422, 500] ∧
      ((withBody r rule next).status = 500 ↔
        ∃ v, readBody r = .value v ∧
          (¬ (rule v).Tellable ∨
            ∃ x, rule v = .ok x ∧ Breaks (next x))) := by
  by_cases hValue : ∃ v, readBody r = .value v
  · rcases hValue with ⟨v, hBody⟩
    rcases status_of_value hBody with ⟨hStatus, hFails⟩
    have hMore : [200, 422, 500] ⊆ [200, 400, 422, 500] := by
      decide
    refine ⟨hMore hStatus, hFails.trans ?_⟩
    constructor
    · exact fun h => ⟨v, hBody, h⟩
    · rintro ⟨w, hSame, h⟩
      rw [hBody] at hSame
      cases hSame
      exact h
  · have hNone : ¬ ∃ v, readBody r = .value v ∧
        (¬ (rule v).Tellable ∨
          ∃ x, rule v = .ok x ∧ Breaks (next x)) :=
      fun ⟨v, hBody, _⟩ => hValue ⟨v, hBody⟩
    rcases status_of_no_value fun v hBody => hValue ⟨v, hBody⟩
      with hStatus | hStatus
    · rw [hStatus]
      exact ⟨by decide, iff_of_false (by decide) hNone⟩
    · rw [hStatus]
      exact ⟨by decide, iff_of_false (by decide) hNone⟩

end Service

------------------------------------------------------------
-- Endpoints
------------------------------------------------------------

namespace Endpoint

/-
  The bodies that an endpoint does not answer: those with
  issues that cannot be told, those with something broken
  that is to be shown, and for a reduction those with an
  expression whose trace cannot be written out.
-/
def BreaksOn : Endpoint → Json → Prop
| health, _ => False
| parse, v => ¬ (ParseBody.ofJson v).Tellable
| evaluate, v =>
    ¬ (ReduceBody.ofJson v).Tellable ∨
      ∃ b, ReduceBody.ofJson v = .ok b ∧
        ∃ t, b.expression.resolve = .ok t ∧
          (b.expression.isWritable = false ∨
            t.trace = .error .number)
| render, v =>
    ¬ (Submission.ofJson v).Tellable ∨
      ∃ s, Submission.ofJson v = .ok s ∧
        s.isWritable = false
| equivalence, v =>
    ¬ (CompareBody.ofJson v).Tellable ∨
      ∃ b, CompareBody.ofJson v = .ok b ∧
        ∃ t u, b.left.resolve = .ok t ∧
          b.right.resolve = .ok u ∧
          (b.left.isWritable && b.right.isWritable) = false

/-
  Of the bodies that can be written an endpoint answers all
  but expressions to reduce whose trace cannot be written.
-/
theorem breaksOn_of_isWritable
    {e : Endpoint}
    {v : Json}
    (hv : v.isWritable = true) :
    e.BreaksOn v ↔
      e = evaluate ∧
        ∃ b, ReduceBody.ofJson v = .ok b ∧
          ∃ t, b.expression.resolve = .ok t ∧
            t.trace = .error .number := by
  cases e with
  | health => exact iff_of_false id fun h => by cases h.1
  | parse =>
      exact iff_of_false
        (fun h => h (ParseBody.tellable_ofJson hv))
        fun h => by cases h.1
  | render =>
      refine iff_of_false ?_ fun h => by cases h.1
      rintro (hUntold | ⟨s, hRead, hBroken⟩)
      · exact hUntold (Submission.tellable_ofJson hv)
      · rw [Submission.isWritable_of_ofJson hv hRead] at hBroken
        cases hBroken
  | equivalence =>
      refine iff_of_false ?_ fun h => by cases h.1
      rintro (hUntold | ⟨b, hRead, t, u, _, _, hBroken⟩)
      · exact hUntold (CompareBody.tellable_ofJson hv)
      · rcases CompareBody.isWritable_of_ofJson hv hRead with
          ⟨hLeft, hRight⟩
        rw [hLeft, hRight] at hBroken
        cases hBroken
  | evaluate =>
      constructor
      · rintro (hUntold | ⟨b, hRead, t, hResolve, hFails⟩)
        · exact absurd (ReduceBody.tellable_ofJson hv) hUntold
        · rcases hFails with hBroken | hTrace
          · rw [ReduceBody.isWritable_of_ofJson hv hRead]
              at hBroken
            cases hBroken
          · exact ⟨rfl, b, hRead, t, hResolve, hTrace⟩
      · rintro ⟨_, b, hRead, t, hResolve, hTrace⟩
        exact .inr ⟨b, hRead, t, hResolve, .inr hTrace⟩

/- All endpoints but one are posted to. -/
theorem method_eq_post
    {e : Endpoint}
    (h : e ≠ health) :
    e.method = "POST" := by
  cases e with
  | health => exact absurd rfl h
  | parse | evaluate | render | equivalence => rfl

end Endpoint

namespace Service

section Answers

variable {s : Settings} {cfg : Config}

variable (hConfig : s.config none = .ok cfg)

variable (hTolerance : s.tolerance.isFinite = true)

include hConfig hTolerance

/- An endpoint fails on just the bodies that it breaks on. -/
theorem status_answerAt
    {e : Endpoint}
    (fresh : Twister)
    (r : Request)
    (hPosted : e ≠ .health) :
    (answerAt s fresh r e).status ∈ [200, 400, 422, 500] ∧
      ((answerAt s fresh r e).status = 500 ↔
        ∃ v, readBody r = .value v ∧ e.BreaksOn v) := by
  cases e with
  | health => exact absurd rfl hPosted
  | parse =>
      have h := status_withBody r ParseBody.ofJson parseAnswer
      refine ⟨h.1, h.2.trans (exists_congr fun v =>
        and_congr_right fun _ => ?_)⟩
      constructor
      · rintro (hUntold | ⟨text, _, hBreaks⟩)
        · exact hUntold
        · exact absurd hBreaks (not_breaks_parseAnswer text)
      · exact .inl
  | evaluate =>
      have h := status_withBody r ReduceBody.ofJson reduceAnswer
      refine ⟨h.1, h.2.trans (exists_congr fun v =>
        and_congr_right fun _ => or_congr Iff.rfl ?_)⟩
      exact exists_congr fun b =>
        and_congr_right fun _ => breaks_reduceAnswer
  | render =>
      have h := status_withBody r Submission.ofJson renderAnswer
      refine ⟨h.1, h.2.trans (exists_congr fun v =>
        and_congr_right fun hBody => or_congr Iff.rfl ?_)⟩
      refine exists_congr fun e =>
        and_congr_right fun hRead => ?_
      have hShort := short_of_readBody hBody
      exact breaks_renderAnswer
        (Submission.sound_of_ofJson hShort hRead)
  | equivalence =>
      have h := status_withBody r CompareBody.ofJson
        (compareAnswer s fresh)
      refine ⟨h.1, h.2.trans (exists_congr fun v =>
        and_congr_right fun _ => or_congr Iff.rfl ?_)⟩
      refine exists_congr fun b =>
        and_congr_right fun hRead => ?_
      refine breaks_compareAnswer fresh hConfig hTolerance ?_
      exact fun n hn => (CompareBody.trials_le hRead n hn).1

end Answers

end Service

end Termwise
