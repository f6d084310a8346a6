import Termwise.Equivalence.History
import Termwise.Proofs.Equivalence.Interchange

/-
  A checker that is asked again and again answers as new
  checkers would whose sources start where the draws before
  have ended.

  Key definitions include:
    * `drawsOf`
    * `Query.Answered`

  Main declarations:
    * `check_draws`
    * `check_of_stream`
    * `Checker.exists_answered`
    * `Checker.serveAll_append`
    * `Checker.exists_serveAll_snd`
    * `Checker.serveAll_fresh`
-/

namespace Termwise

------------------------------------------------------------
-- Checks
------------------------------------------------------------

/-
  The integers that a check draws: one for each variable in
  each of its trials, or none if it fails.
-/
def drawsOf (t u : Tree) : Except CheckFault Report → Nat
| .ok r => r.trialsRun * (variablesOf [t, u]).length
| .error _ => 0

/-
  The stream of a source decides what becomes of a check,
  and with that how many integers are drawn.
-/
theorem exists_check_eq
    (cfg : Config)
    (t u : Tree)
    (d : Nat → Int) :
    ∃ result, ∀ {σ : Type} [Source σ] (s : σ),
      Source.stream cfg.low cfg.high s = d →
        check cfg t u s =
          (result,
            Source.after cfg.low cfg.high s
              (drawsOf t u result)) := by
  cases hTolerance : cfg.tolerance.toRat? with
  | none =>
      rcases Double.exists_asTolerance_eq_error hTolerance
        with ⟨f, hFault⟩
      refine ⟨.error (.tolerance f), ?_⟩
      intro σ _ s hStream
      rw [check_of_asTolerance hFault]
      rfl
  | some tolerance =>
      rcases firstRefuted_or_passed tolerance
          (variablesOf [t, u]) d t u cfg.trials with
        ⟨i, p, q, hBound, hFirst⟩ | hPassed
      · exact ⟨.ok ⟨_, _, _, _, _⟩, fun s hStream =>
          check_refuted hTolerance hStream hBound hFirst⟩
      · exact ⟨.ok ⟨_, _, _, _, _⟩, fun s hStream =>
          check_agreed hTolerance hStream hPassed⟩

section Sources

variable {σ σ' : Type} [Source σ] [Source σ']

variable {cfg : Config}

/- A check leaves its source after the integers it draws. -/
theorem check_draws
    (t u : Tree)
    (s : σ) :
    (check cfg t u s).2 =
      Source.after cfg.low cfg.high s
        (drawsOf t u (check cfg t u s).1) := by
  rcases exists_check_eq cfg t u _ with ⟨result, hResult⟩
  rw [hResult s rfl]

/- Sources with one stream make for the same checks. -/
theorem check_of_stream
    {s : σ}
    {s' : σ'}
    (hSame :
      Source.stream cfg.low cfg.high s =
        Source.stream cfg.low cfg.high s')
    (t u : Tree) :
    (check cfg t u s).1 = (check cfg t u s').1 := by
  rcases exists_check_eq cfg t u _ with ⟨result, hResult⟩
  rw [hResult s hSame, hResult s' rfl]

/- A check fails for nothing but its tolerance. -/
theorem check_eq_error_iff
    {t u : Tree}
    {s : σ}
    {f : CheckFault} :
    (check cfg t u s).1 = .error f ↔
      ∃ g, cfg.tolerance.asTolerance = .error g ∧
        f = .tolerance g := by
  constructor
  · intro h
    cases hTolerance : cfg.tolerance.toRat? with
    | none =>
        rcases Double.exists_asTolerance_eq_error hTolerance
          with ⟨g, hFault⟩
        rw [check_of_asTolerance hFault] at h
        cases h
        exact ⟨g, hFault, rfl⟩
    | some tolerance =>
        rcases exists_check_eq_ok hTolerance t u s with
          ⟨report, s₂, hReport⟩
        rw [hReport] at h
        cases h
  · rintro ⟨g, hFault, rfl⟩
    rw [check_of_asTolerance hFault]

end Sources

------------------------------------------------------------
-- One Request
------------------------------------------------------------

/-
  A request is answered from a source with a number of
  draws.  A check draws once for each variable in each trial
  that it reports, whether it is asked for its report or for
  the verdict.  A request for the settings draws nothing, and
  neither does one that fails for the tolerance.
-/
inductive Query.Answered
    {σ : Type}
    [Source σ]
    (cfg : Config)
    (s : σ) : Query → Answer → Nat → Prop where
| report {t u : Tree} {r : Report} :
    (check cfg t u s).1 = .ok r →
    Answered cfg s (.report t u) (.report r)
      (r.trialsRun * (variablesOf [t, u]).length)
| verdict {t u : Tree} {r : Report} :
    (check cfg t u s).1 = .ok r →
    Answered cfg s (.verdict t u) (.verdict r.equivalent)
      (r.trialsRun * (variablesOf [t, u]).length)
| noReport {t u : Tree} {f : ToleranceFault} :
    cfg.tolerance.asTolerance = .error f →
    Answered cfg s (.report t u) (.failed (.tolerance f)) 0
| noVerdict {t u : Tree} {f : ToleranceFault} :
    cfg.tolerance.asTolerance = .error f →
    Answered cfg s (.verdict t u) (.failed (.tolerance f)) 0
| settings :
    Answered cfg s .settings (.settings cfg) 0

section Requests

variable {σ σ' : Type} [Source σ] [Source σ']

/- Sources with one stream give the same answers. -/
theorem Query.Answered.of_stream
    {cfg : Config}
    {s : σ}
    {s' : σ'}
    {q : Query}
    {answer : Answer}
    {n : Nat}
    (h : Answered cfg s q answer n)
    (hSame :
      Source.stream cfg.low cfg.high s =
        Source.stream cfg.low cfg.high s') :
    Answered cfg s' q answer n := by
  cases h with
  | report hCheck =>
      rw [check_of_stream hSame] at hCheck
      exact .report hCheck
  | verdict hCheck =>
      rw [check_of_stream hSame] at hCheck
      exact .verdict hCheck
  | noReport hFault => exact .noReport hFault
  | noVerdict hFault => exact .noVerdict hFault
  | settings => exact .settings

namespace Checker

/- A request for a report is answered with it, if any. -/
theorem serve_report
    (c : Checker σ)
    (t u : Tree) :
    c.serve (.report t u) =
      (match (check c.config t u c.source).1 with
        | .ok r => .report r
        | .error f => .failed f,
        ⟨c.config, (check c.config t u c.source).2⟩) := by
  rw [serve]
  rcases check c.config t u c.source with ⟨_ | _, _⟩
  · rfl
  · rfl

/- A request for the verdict is answered from the report. -/
theorem serve_verdict
    (c : Checker σ)
    (t u : Tree) :
    c.serve (.verdict t u) =
      (match (check c.config t u c.source).1 with
        | .ok r => .verdict r.equivalent
        | .error f => .failed f,
        ⟨c.config, (check c.config t u c.source).2⟩) := by
  rw [serve, areEquivalent]
  rcases check c.config t u c.source with ⟨_ | _, _⟩
  · rfl
  · rfl

/-
  A checker answers every request, and leaves its source
  after the draws that the answer takes.
-/
theorem exists_answered
    (c : Checker σ)
    (q : Query) :
    ∃ answer n,
      q.Answered c.config c.source answer n ∧
      c.serve q =
        (answer,
          ⟨c.config,
            Source.after c.config.low c.config.high c.source
              n⟩) := by
  cases q with
  | settings => exact ⟨_, 0, .settings, rfl⟩
  | report t u =>
      rw [serve_report, check_draws]
      cases hCheck : (check c.config t u c.source).1 with
      | ok r => exact ⟨_, _, .report hCheck, rfl⟩
      | error f =>
          rcases check_eq_error_iff.mp hCheck with
            ⟨g, hFault, rfl⟩
          exact ⟨_, _, .noReport hFault, rfl⟩
  | verdict t u =>
      rw [serve_verdict, check_draws]
      cases hCheck : (check c.config t u c.source).1 with
      | ok r => exact ⟨_, _, .verdict hCheck, rfl⟩
      | error f =>
          rcases check_eq_error_iff.mp hCheck with
            ⟨g, hFault, rfl⟩
          exact ⟨_, _, .noVerdict hFault, rfl⟩

/- Sources with one stream make for the same answers. -/
theorem serve_of_stream
    {cfg : Config}
    {s : σ}
    {s' : σ'}
    (hSame :
      Source.stream cfg.low cfg.high s =
        Source.stream cfg.low cfg.high s')
    (q : Query) :
    (serve ⟨cfg, s⟩ q).1 = (serve ⟨cfg, s'⟩ q).1 := by
  cases q with
  | settings => rfl
  | report t u =>
      rw [serve_report, serve_report, check_of_stream hSame]
  | verdict t u =>
      rw [serve_verdict, serve_verdict, check_of_stream hSame]

end Checker

end Requests

------------------------------------------------------------
-- Requests in Turn
------------------------------------------------------------

namespace Checker

section Runs

variable {σ : Type} [Source σ]

/- Later requests are answered by what earlier ones leave. -/
theorem serveAll_append
    (c : Checker σ)
    (qs rs : List Query) :
    c.serveAll (qs ++ rs) =
      ((c.serveAll qs).1 ++ ((c.serveAll qs).2.serveAll rs).1,
        ((c.serveAll qs).2.serveAll rs).2) := by
  induction qs generalizing c with
  | nil => rfl
  | cons q qs ih => simp only [List.cons_append, serveAll, ih]

/- Every request gets one answer. -/
theorem length_serveAll
    (c : Checker σ)
    (qs : List Query) :
    (c.serveAll qs).1.length = qs.length := by
  induction qs generalizing c with
  | nil => rfl
  | cons q qs ih => simp only [serveAll, List.length_cons, ih]

/-
  Requests leave the settings as they are and take the source
  forward by some draws.
-/
theorem exists_serveAll_snd
    (c : Checker σ)
    (qs : List Query) :
    ∃ n, (c.serveAll qs).2 =
      ⟨c.config,
        Source.after c.config.low c.config.high c.source
          n⟩ := by
  induction qs generalizing c with
  | nil => exact ⟨0, rfl⟩
  | cons q qs ih =>
      rcases c.exists_answered q with ⟨answer, m, _, hServe⟩
      rcases ih (c.serve q).2 with ⟨n, hRest⟩
      refine ⟨m + n, ?_⟩
      show ((c.serve q).2.serveAll qs).2 = _
      rw [hRest, hServe]
      dsimp only
      rw [Source.after_after]

end Runs

/-
  Of any requests in turn, each is answered as by a new
  checker with the same settings, whose source starts after
  the draws that were recorded for the requests before it.
  For the answer as many draws are recorded as it takes, all
  from the range of the settings.
-/
theorem serveAll_fresh
    {σ : Type}
    [Source σ]
    (cfg : Config)
    (s : σ)
    (before : List Query)
    (q : Query)
    (later : List Query) :
    let run := serveAll ⟨cfg, Recorded.start s⟩
    let place := (run before).2.source.draws.length
    let rest := Source.after cfg.low cfg.high s place
    ∃ answer n,
      (run (before ++ q :: later)).1[before.length]? =
        some answer ∧
      (serve ⟨cfg, rest⟩ q).1 = answer ∧
      q.Answered cfg rest answer n ∧
      (run before).2.source.draws =
        List.replicate place (cfg.low, cfg.high) ∧
      (run (before ++ [q])).2.source.draws =
        List.replicate (place + n) (cfg.low, cfg.high) := by
  intro run place rest
  have hAppend (qs : List Query) :
      run (before ++ qs) =
        ((run before).1 ++ ((run before).2.serveAll qs).1,
          ((run before).2.serveAll qs).2) :=
    serveAll_append _ before qs
  have hLength : (run before).1.length = before.length :=
    length_serveAll _ before
  have hBefore :
      ∃ k, (run before).2 =
        ⟨cfg,
          Source.after cfg.low cfg.high (Recorded.start s)
            k⟩ :=
    exists_serveAll_snd _ before
  rcases hBefore with ⟨k, hBefore⟩
  have hDrawn :
      (run before).2.source.draws =
        List.replicate k (cfg.low, cfg.high) := by
    rw [hBefore]
    exact Recorded.draws_after_start cfg.low cfg.high s k
  have hPlace : place = k := by
    show (run before).2.source.draws.length = k
    rw [hDrawn, List.length_replicate]
  have hStream :
      Source.stream cfg.low cfg.high
          (Source.after cfg.low cfg.high (Recorded.start s)
            k) =
        Source.stream cfg.low cfg.high rest := by
    rw [Recorded.stream_eq, Recorded.after_eq, ← hPlace]
    rfl
  rcases exists_answered
      ⟨cfg, Source.after cfg.low cfg.high (Recorded.start s) k⟩
      q with
    ⟨answer, n, hAnswered, hServe⟩
  refine ⟨answer, n, ?_, ?_, hAnswered.of_stream hStream, ?_,
    ?_⟩
  · rw [hAppend, ← hLength,
      List.getElem?_append_right (Nat.le_refl _),
      Nat.sub_self, hBefore]
    show some (serve _ q).1 = some answer
    rw [hServe]
  · rw [← serve_of_stream hStream, hServe]
  · rw [hDrawn, hPlace]
  · rw [hAppend, hBefore]
    simp only [serveAll, hServe]
    rw [Source.after_after, hPlace]
    exact Recorded.draws_after_start cfg.low cfg.high s (k + n)

end Checker

end Termwise
