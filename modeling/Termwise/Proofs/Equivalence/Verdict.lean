import Termwise.Proofs.Equivalence.Run
import Termwise.Proofs.Tree.Variables

/-
  What an equivalence check reports: the first trial that
  refutes the equivalence, or that there is none.

  Main declarations:
    * `check_of_asTolerance`
    * `exists_firstRefuted`
    * `firstRefuted_or_passed`
    * `check_refuted`
    * `check_agreed`
    * `check_cases`
    * `equivalent_of_check`
    * `check_eq_ok`
-/

namespace Termwise

------------------------------------------------------------
-- Checks
------------------------------------------------------------

/- A tolerance that has a value is compared with as that. -/
theorem Double.asTolerance_of_toRat?
    {x : Double}
    {q : Rat}
    (h : x.toRat? = some q) :
    x.asTolerance = .ok q := by
  cases x with
  | nan => cases h
  | infinite negative => cases h
  | finite negative m e =>
      cases h
      rfl

/- A finite tolerance has a value to compare with. -/
theorem Double.exists_toRat?
    {d : Double}
    (h : d.isFinite = true) :
    ∃ q, d.toRat? = some q := by
  cases d with
  | finite negative m e => exact ⟨_, rfl⟩
  | infinite | nan => cases h

/- A tolerance without a value is refused. -/
theorem Double.exists_asTolerance_eq_error
    {x : Double}
    (h : x.toRat? = none) :
    ∃ f, x.asTolerance = .error f := by
  cases x with
  | nan => exact ⟨_, rfl⟩
  | infinite negative => exact ⟨_, rfl⟩
  | finite negative m e => cases h

/- Such a tolerance stops a check at its start. -/
theorem check_of_asTolerance
    {σ : Type}
    [Source σ]
    {cfg : Config}
    {f : ToleranceFault}
    (hFault : cfg.tolerance.asTolerance = .error f)
    (t u : Tree)
    (s : σ) :
    check cfg t u s = (.error (.tolerance f), s) := by
  rw [check, checkRun, hFault]

/- If a trial refutes there is a first one that does. -/
theorem exists_firstRefuted
    {tolerance : Rat}
    {names : List String}
    {d : Nat → Int}
    {t u : Tree}
    {trials : Nat}
    (h :
      ∃ i, i < trials ∧ ∃ p q,
        Refutes tolerance (sampled names d i) t u p q) :
    ∃ i p q,
      i < trials ∧
        FirstRefuted tolerance names d t u i p q := by
  classical
  rcases Nat.find_spec h with ⟨hBound, p, q, hRefutes⟩
  refine ⟨Nat.find h, p, q, hBound, hRefutes, ?_⟩
  intro j hBefore p' q' hEarlier
  exact Nat.find_min h hBefore
    ⟨hBefore.trans hBound, p', q', hEarlier⟩

/- A trial is the first one to refute, or all of them pass. -/
theorem firstRefuted_or_passed
    (tolerance : Rat)
    (names : List String)
    (d : Nat → Int)
    (t u : Tree)
    (trials : Nat) :
    (∃ i p q,
      i < trials ∧
        FirstRefuted tolerance names d t u i p q) ∨
      ∀ i < trials, ∀ p q,
        ¬ Refutes tolerance (sampled names d i) t u p q := by
  by_cases hRefuted :
      ∃ i, i < trials ∧ ∃ p q,
        Refutes tolerance (sampled names d i) t u p q
  · exact .inl (exists_firstRefuted hRefuted)
  · refine .inr ?_
    intro i hBound p q hRefutes
    exact hRefuted ⟨i, hBound, p, q, hRefutes⟩

section Checks

variable {σ : Type} [Source σ]

variable {cfg : Config} {tolerance : Rat} {s : σ}

variable {d : Nat → Int} {t u : Tree}

variable
  (hTolerance : cfg.tolerance.toRat? = some tolerance)

include hTolerance

/- A check is a run that starts with no trial made. -/
theorem check_of_runTrials
    {run : Run}
    {s' : σ}
    (hRun :
      runTrials cfg tolerance (variablesOf [t, u]) t u [] 0
          cfg.trials
          (Source.after cfg.low cfg.high s
            (0 * (variablesOf [t, u]).length)) =
        (.ok run, s')) :
    check cfg t u s = (.ok run.report, s') := by
  rw [Nat.zero_mul, Source.after] at hRun
  rw [check, checkRun,
    Double.asTolerance_of_toRat? hTolerance]
  dsimp only
  rw [hRun]

variable (hStream : Source.stream cfg.low cfg.high s = d)

include hStream

/- A check reports the first trial that refutes. -/
theorem check_refuted
    {i : Nat}
    {p q : Rat}
    (hBound : i < cfg.trials)
    (hFirst :
      FirstRefuted tolerance (variablesOf [t, u]) d t u
        i p q) :
    check cfg t u s =
      (.ok
        ⟨false, variablesOf [t, u], i + 1,
          undefinedBefore (variablesOf [t, u]) d t u i,
          some
            ⟨sampled (variablesOf [t, u]) d i,
              Double.ofRat p, Double.ofRat q⟩⟩,
        Source.after cfg.low cfg.high s
          ((i + 1) * (variablesOf [t, u]).length)) := by
  rcases runTrials_refuted hStream
      (fun x => mem_variablesOf.mpr) hFirst (Nat.zero_le i)
      (by rwa [Nat.zero_add])
      (length_no_skips _ d t u) with
    ⟨skips, hRun⟩
  exact check_of_runTrials hTolerance hRun

/- A check in which no trial refutes makes all of them. -/
theorem check_agreed
    (hPassed :
      ∀ i < cfg.trials, ∀ p q,
        ¬ Refutes tolerance
          (sampled (variablesOf [t, u]) d i) t u p q) :
    check cfg t u s =
      (.ok
        ⟨true, variablesOf [t, u], cfg.trials,
          undefinedBefore (variablesOf [t, u]) d t u
            cfg.trials,
          none⟩,
        Source.after cfg.low cfg.high s
          (cfg.trials * (variablesOf [t, u]).length)) := by
  rcases runTrials_agreed hStream
      (fun x => mem_variablesOf.mpr)
      (by rwa [Nat.zero_add])
      (length_no_skips _ d t u) with
    ⟨skips, hRun⟩
  rw [Nat.zero_add] at hRun
  exact check_of_runTrials hTolerance hRun

end Checks

section Reports

variable {σ : Type} [Source σ]

variable {cfg : Config} {t u : Tree} {s source : σ}

variable {report : Report}

/-
  A check that makes a report has found the first trial that
  refutes, or all its trials have passed.
-/
theorem check_cases
    (h : check cfg t u s = (.ok report, source)) :
    let names := variablesOf [t, u]
    let d := Source.stream cfg.low cfg.high s
    ∃ tolerance, cfg.tolerance.toRat? = some tolerance ∧
      ((∃ i p q, i < cfg.trials ∧
          FirstRefuted tolerance names d t u i p q ∧
          report =
            ⟨false, names, i + 1,
              undefinedBefore names d t u i,
              some
                ⟨sampled names d i, Double.ofRat p,
                  Double.ofRat q⟩⟩) ∨
        ((∀ i < cfg.trials, ∀ p q,
            ¬ Refutes tolerance (sampled names d i) t u p q) ∧
          report =
            ⟨true, names, cfg.trials,
              undefinedBefore names d t u cfg.trials,
              none⟩)) := by
  intro names d
  cases hTolerance : cfg.tolerance.toRat? with
  | none =>
      rcases Double.exists_asTolerance_eq_error hTolerance
        with ⟨f, hFault⟩
      rw [check_of_asTolerance hFault] at h
      cases h
  | some tolerance =>
      refine ⟨tolerance, rfl, ?_⟩
      rcases firstRefuted_or_passed tolerance names d t u
          cfg.trials with
        ⟨i, p, q, hBound, hFirst⟩ | hPassed
      · rw [check_refuted hTolerance rfl hBound hFirst] at h
        cases h
        exact .inl ⟨i, p, q, hBound, hFirst, rfl⟩
      · rw [check_agreed hTolerance rfl hPassed] at h
        cases h
        exact .inr ⟨hPassed, rfl⟩

/-
  The verdict of a report is that of its counterexample: the
  expressions are equivalent just if there is none.
-/
theorem equivalent_of_check
    (h : check cfg t u s = (.ok report, source)) :
    report.equivalent = report.counterexample.isNone := by
  rcases check_cases h with
    ⟨_, _, ⟨_, _, _, _, _, rfl⟩ | ⟨_, rfl⟩⟩
  · rfl
  · rfl

end Reports

/-
  What a check reports of two trees, whatever integers are
  on the tape.  It has found the first trial that refutes,
  or there is none; it has counted the undefined trials up
  to there; and it has drawn once for every variable in
  every trial, always from the range of the settings.  So
  trees whose values never differ by more than the tolerance
  are not told apart.
-/
theorem check_eq_ok
    {cfg : Config}
    {tolerance : Rat}
    (hTolerance : cfg.tolerance.toRat? = some tolerance)
    (t u : Tree)
    (d : Nat → Int) :
    ∃ names report source,
      names.Pairwise (· < ·) ∧
      (∀ x, x ∈ names ↔ x ∈ t.names ∨ x ∈ u.names) ∧
      check cfg t u (Recorded.start (Tape.mk d 0)) =
        (.ok report, source) ∧
      source.draws =
        List.replicate (report.trialsRun * names.length)
          (cfg.low, cfg.high) ∧
      report.names = names ∧
      ((∃ i p q,
          i < cfg.trials ∧
          FirstRefuted tolerance names d t u i p q ∧
          report.equivalent = false ∧
          report.trialsRun = i + 1 ∧
          report.trialsSkipped =
            undefinedBefore names d t u i ∧
          report.counterexample =
            some
              ⟨sampled names d i, Double.ofRat p,
                Double.ofRat q⟩) ∨
        ((∀ i < cfg.trials, ∀ p q,
            ¬ Refutes tolerance (sampled names d i) t u p q) ∧
          report.equivalent = true ∧
          report.trialsRun = cfg.trials ∧
          report.trialsSkipped =
            undefinedBefore names d t u cfg.trials ∧
          report.counterexample = none)) ∧
      ((∀ value? p q,
          (t.substitute value?).outcome = .value p →
          (u.substitute value?).outcome = .value q →
          |p - q| ≤ tolerance) →
        report.equivalent = true) := by
  have hStream :
      Source.stream cfg.low cfg.high
        (Recorded.start (Tape.mk d 0)) = d := by
    rw [Recorded.stream_eq]
    exact Tape.stream_eq cfg.low cfg.high d
  have hDraws :=
    Recorded.draws_after_start cfg.low cfg.high (Tape.mk d 0)
  by_cases hRefuted :
      ∃ i, i < cfg.trials ∧ ∃ p q,
        Refutes tolerance (sampled (variablesOf [t, u]) d i)
          t u p q
  · rcases exists_firstRefuted hRefuted with
      ⟨i, p, q, hBound, hFirst⟩
    refine ⟨_, _, _, variablesOf_ascending _,
      fun x => mem_variablesOf,
      check_refuted hTolerance hStream hBound hFirst,
      hDraws _, rfl,
      .inl ⟨i, p, q, hBound, hFirst, rfl, rfl, rfl, rfl⟩, ?_⟩
    intro hAgree
    have hApart := hFirst.refutes.apart
    exact absurd
      (hAgree _ p q hFirst.refutes.left hFirst.refutes.right)
      (not_le.mpr hApart)
  · have hPassed :
        ∀ i < cfg.trials, ∀ p q,
          ¬ Refutes tolerance
            (sampled (variablesOf [t, u]) d i) t u p q := by
      intro i hBound p q hRefutes
      exact hRefuted ⟨i, hBound, p, q, hRefutes⟩
    exact ⟨_, _, _, variablesOf_ascending _,
      fun x => mem_variablesOf,
      check_agreed hTolerance hStream hPassed,
      hDraws _, rfl,
      .inr ⟨hPassed, rfl, rfl, rfl, rfl⟩, fun _ => rfl⟩

/-
  By the standard settings `x / x` and `1` are equivalent,
  though a trial on this tape divides by zero.
-/
theorem check_quotient_of_equals :
    ∃ tolerance report source,
      Config.standard.tolerance.toRat? = some tolerance ∧
      check Config.standard
          (.bin .div (.var "x") (.var "x")) (.num 1)
          (Recorded.start (Tape.mk (fun n => n) 0)) =
        (.ok report, source) ∧
      report.equivalent = true ∧
      report.trialsRun = 10 := by
  have hTolerance :
      Config.standard.tolerance.toRat? =
        some (Double.magnitude 7378697629483821 (-66)) := by
    rfl
  rcases check_eq_ok hTolerance
      (.bin .div (.var "x") (.var "x")) (.num 1)
      (fun n => n) with
    ⟨names, report, source, -, -, hCheck, -, -, hVerdict,
      hAgreed⟩
  have hEquivalent : report.equivalent = true := by
    refine hAgreed ?_
    intro value? p q hLeft hRight
    have hOne : q = 1 := by
      cases hRight
      rfl
    have hQuotient : p = 1 := by
      rw [Tree.substitute, Tree.substitute] at hLeft
      cases hValue : value? "x" with
      | none =>
          rw [hValue] at hLeft
          cases hLeft
      | some n =>
          rw [hValue] at hLeft
          dsimp only at hLeft
          rw [Tree.outcome, Tree.outcome_ofInt, Op.combine,
            Op.apply] at hLeft
          by_cases hZero : (n : Rat) = 0
          · rw [if_pos hZero] at hLeft
            cases hLeft
          · rw [if_neg hZero, div_self hZero] at hLeft
            cases hLeft
            rfl
    rw [hOne, hQuotient, sub_self, abs_zero]
    decide
  refine ⟨_, report, source, hTolerance, hCheck,
    hEquivalent, ?_⟩
  rcases hVerdict with
    ⟨i, p, q, -, -, hRefuted, -⟩ | ⟨-, -, hTrials, -⟩
  · rw [hEquivalent] at hRefuted
    cases hRefuted
  · exact hTrials

end Termwise
