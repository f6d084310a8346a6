import Termwise.Proofs.Equivalence.Verdict

/-
  More trials refine what an equivalence check reports, and
  a larger tolerance forgives more.

  Key definitions include:
    * `Config.withTrials`
    * `Config.withTolerance`

  Main declarations:
    * `Refutes.mono`
    * `FirstRefuted.le`
    * `undefinedBefore_mono`
    * `check_withTrials_refuted`
    * `check_withTrials_agreed`
    * `check_withTolerance`
    * `check_mono`
-/

namespace Termwise

------------------------------------------------------------
-- Settings
------------------------------------------------------------

namespace Config

/- The same settings but for the number of trials. -/
def withTrials
    (cfg : Config)
    (trials : Nat)
    (hTrials : 0 < trials) : Config :=
  { cfg with trials := trials, trials_pos := hTrials }

/- The same settings but for the tolerance. -/
def withTolerance
    (cfg : Config)
    (tolerance : Double) : Config :=
  { cfg with tolerance := tolerance }

end Config

------------------------------------------------------------
-- Trials
------------------------------------------------------------

/- What exceeds a tolerance exceeds a smaller one. -/
theorem Refutes.mono
    {small large : Rat}
    (hLe : small ≤ large)
    {a : Assignment}
    {t u : Tree}
    {p q : Rat}
    (h : Refutes large a t u p q) :
    Refutes small a t u p q :=
  ⟨h.left, h.right, hLe.trans_lt h.apart⟩

/- So a larger tolerance is not exceeded any earlier. -/
theorem FirstRefuted.le
    {small large : Rat}
    {names : List String}
    {d : Nat → Int}
    {t u : Tree}
    {i j : Nat}
    {p q p' q' : Rat}
    (hSmall : FirstRefuted small names d t u i p q)
    (hLe : small ≤ large)
    (hLarge : FirstRefuted large names d t u j p' q') :
    i ≤ j := by
  by_contra hAfter
  exact hSmall.first j (by omega) p' q'
    (hLarge.refutes.mono hLe)

/- Later on no fewer trials were undefined. -/
theorem undefinedBefore_mono
    (names : List String)
    (d : Nat → Int)
    (t u : Tree)
    {i j : Nat}
    (hLe : i ≤ j) :
    undefinedBefore names d t u i ≤
      undefinedBefore names d t u j :=
  Nat.count_monotone _ hLe

------------------------------------------------------------
-- Checks
------------------------------------------------------------

section Checks

variable {σ : Type} [Source σ]

variable {cfg : Config} {t u : Tree} {s source : σ}

variable {report : Report}

section Trials

variable {n m : Nat} {hn : 0 < n} {hm : 0 < m}

variable (hLe : n ≤ m)

include hLe

/- A refutation is found by a check of more trials, too. -/
theorem check_withTrials_refuted
    (h :
      check (cfg.withTrials n hn) t u s =
        (.ok report, source))
    (hVerdict : report.equivalent = false) :
    check (cfg.withTrials m hm) t u s =
      (.ok report, source) := by
  rcases check_cases h with
    ⟨tolerance, hTolerance,
      ⟨i, p, q, hBound, hFirst, _⟩ | ⟨_, hAgreed⟩⟩
  · have hSame :
        (cfg.withTrials m hm).tolerance.toRat? =
          some tolerance :=
      hTolerance
    have hLater : i < (cfg.withTrials m hm).trials :=
      hBound.trans_le hLe
    rw [← h, check_refuted hTolerance rfl hBound hFirst]
    exact check_refuted hSame rfl hLater hFirst
  · rw [hAgreed] at hVerdict
    cases hVerdict

/- If many trials agree so do the first few of them. -/
theorem check_withTrials_agreed
    (h :
      check (cfg.withTrials m hm) t u s =
        (.ok report, source))
    (hVerdict : report.equivalent = true) :
    ∃ earlier source',
      check (cfg.withTrials n hn) t u s =
          (.ok earlier, source') ∧
        earlier.equivalent = true ∧
        earlier.trialsSkipped ≤ report.trialsSkipped := by
  rcases check_cases h with
    ⟨tolerance, hTolerance,
      ⟨_, _, _, _, _, hRefuted⟩ | ⟨hPassed, _⟩⟩
  · rw [hRefuted] at hVerdict
    cases hVerdict
  · have hSame :
        (cfg.withTrials n hn).tolerance.toRat? =
          some tolerance :=
      hTolerance
    have hFew :=
      check_agreed hSame rfl fun i hBound =>
        hPassed i (hBound.trans_le hLe)
    rw [check_agreed hTolerance rfl hPassed] at h
    cases h
    exact ⟨_, _, hFew, rfl, undefinedBefore_mono _ _ t u hLe⟩

end Trials

/-
  With a larger tolerance a check stops no earlier, and it
  finds equivalent what was found so before.
-/
theorem check_withTolerance
    {x y : Double}
    {small large : Rat}
    (hSmall : x.toRat? = some small)
    (hLarge : y.toRat? = some large)
    (hLe : small ≤ large)
    (cfg : Config)
    (t u : Tree)
    (s : σ) :
    ∃ strict source lenient source',
      check (cfg.withTolerance x) t u s =
          (.ok strict, source) ∧
        check (cfg.withTolerance y) t u s =
          (.ok lenient, source') ∧
        (strict.equivalent = true →
          lenient.equivalent = true) ∧
        strict.trialsRun ≤ lenient.trialsRun := by
  have hStrict :
      (cfg.withTolerance x).tolerance.toRat? = some small :=
    hSmall
  have hLenient :
      (cfg.withTolerance y).tolerance.toRat? = some large :=
    hLarge
  rcases firstRefuted_or_passed small (variablesOf [t, u])
      (Source.stream cfg.low cfg.high s) t u cfg.trials with
    ⟨i, p, q, hBound, hFirst⟩ | hPassed
  · rcases firstRefuted_or_passed large (variablesOf [t, u])
        (Source.stream cfg.low cfg.high s) t u cfg.trials with
      ⟨j, p', q', hBound', hFirst'⟩ | hPassed'
    -- The trial that refutes the lenient check refutes the
    -- strict one as well, which may have ended before.
    · have hOrder : i ≤ j := hFirst.le hLe hFirst'
      refine ⟨_, _, _, _,
        check_refuted hStrict rfl hBound hFirst,
        check_refuted hLenient rfl hBound' hFirst', ?_,
        Nat.succ_le_succ hOrder⟩
      intro hAgreed
      cases hAgreed
    · exact ⟨_, _, _, _,
        check_refuted hStrict rfl hBound hFirst,
        check_agreed hLenient rfl hPassed', fun _ => rfl,
        hBound⟩
  · have hPassed' :
        ∀ i < cfg.trials, ∀ p q,
          ¬ Refutes large
            (sampled (variablesOf [t, u])
              (Source.stream cfg.low cfg.high s) i)
            t u p q := by
      intro i hBound p q hRefutes
      exact hPassed i hBound p q (hRefutes.mono hLe)
    exact ⟨_, _, _, _, check_agreed hStrict rfl hPassed,
      check_agreed hLenient rfl hPassed', fun _ => rfl,
      Nat.le_refl _⟩

end Checks

/-
  More trials only refine a check, and a larger tolerance
  only forgives.  A report that is not equivalent is not
  changed by more trials, and one that is equivalent was so
  after fewer of them, of which no more were skipped.  What
  is equivalent within a tolerance is equivalent within any
  larger one, and the check with the smaller one makes no
  more trials.
-/
theorem check_mono
    {σ : Type}
    [Source σ]
    (cfg : Config)
    (t u : Tree)
    (s : σ) :
    (∀ n m (hn : 0 < n) (hm : 0 < m), n ≤ m →
      (∀ report source,
        check (cfg.withTrials n hn) t u s =
            (.ok report, source) →
          report.equivalent = false →
          check (cfg.withTrials m hm) t u s =
            (.ok report, source)) ∧
      ∀ report source,
        check (cfg.withTrials m hm) t u s =
            (.ok report, source) →
          report.equivalent = true →
          ∃ earlier source',
            check (cfg.withTrials n hn) t u s =
                (.ok earlier, source') ∧
              earlier.equivalent = true ∧
              earlier.trialsSkipped ≤
                report.trialsSkipped) ∧
    ∀ x y small large, x.toRat? = some small →
      y.toRat? = some large → small ≤ large →
      ∃ strict source lenient source',
        check (cfg.withTolerance x) t u s =
            (.ok strict, source) ∧
          check (cfg.withTolerance y) t u s =
            (.ok lenient, source') ∧
          (strict.equivalent = true →
            lenient.equivalent = true) ∧
          strict.trialsRun ≤ lenient.trialsRun := by
  constructor
  · intro n m hn hm hLe
    constructor
    · intro report source
      exact check_withTrials_refuted hLe
    · intro report source
      exact check_withTrials_agreed hLe
  · intro x y small large hSmall hLarge hLe
    exact check_withTolerance hSmall hLarge hLe cfg t u s

/-
  Of these samples, `1 / x` and `y` are undefined in one
  trial and `5 / 2` apart in the next.  A check that finds
  this in two trials finds it in nine, and a tolerance of
  `5 / 2` forgives it, after one trial as after four.
-/
theorem check_mono_inverse :
    let t := Tree.bin .div (.num 1) (.var "x")
    let u := Tree.var "y"
    let s := Samples.ofList [0, 1, 2, 3]
    let strict := Config.standard
    let fiveHalves := Double.finite false 5 (-1)
    let lenient := strict.withTolerance fiveHalves
    (∃ report source,
      check (strict.withTrials 2 (by decide)) t u s =
          (.ok report, source) ∧
        report.equivalent = false ∧
        check (strict.withTrials 9 (by decide)) t u s =
          (.ok report, source)) ∧
    (∃ report source earlier source',
      check (lenient.withTrials 4 (by decide)) t u s =
          (.ok report, source) ∧
        report.equivalent = true ∧
        check (lenient.withTrials 1 (by decide)) t u s =
          (.ok earlier, source') ∧
        earlier.trialsSkipped ≤ report.trialsSkipped) ∧
    ∃ small large refused source forgiven source',
      strict.tolerance.toRat? = some small ∧
      fiveHalves.toRat? = some large ∧
      small ≤ large ∧
      check (strict.withTolerance strict.tolerance) t u s =
        (.ok refused, source) ∧
      check lenient t u s = (.ok forgiven, source') ∧
      refused.trialsRun ≤ forgiven.trialsRun := by
  intro t u s strict fiveHalves lenient
  have hRefuted :
      check (strict.withTrials 2 (by decide)) t u s =
        (.ok
          ⟨false, ["x", "y"], 2, 1,
            some
              ⟨[("x", 2), ("y", 3)], .ofRat (1 / 2),
                .ofRat 3⟩⟩,
          ⟨[0, 1, 2, 3], []⟩) := by
    decide +kernel
  have hAgreed :
      check (lenient.withTrials 4 (by decide)) t u s =
        (.ok ⟨true, ["x", "y"], 4, 2, none⟩,
          ⟨[0, 1, 2, 3], []⟩) := by
    decide +kernel
  have hStrict :
      strict.tolerance.toRat? =
        some (Double.magnitude 7378697629483821 (-66)) := by
    rfl
  have hLenient :
      fiveHalves.toRat? = some (Double.magnitude 5 (-1)) := by
    rfl
  have hLe :
      Double.magnitude 7378697629483821 (-66) ≤
        Double.magnitude 5 (-1) := by
    decide +kernel
  rcases check_mono strict t u s with ⟨hTrials, hTolerance⟩
  rcases check_mono lenient t u s with ⟨hForgiving, _⟩
  rcases hTolerance _ _ _ _ hStrict hLenient hLe with
    ⟨refused, source, forgiven, source', hRefused, hForgiven,
      _, hRun⟩
  rcases (hForgiving 1 4 (by decide) (by decide)
      (by decide)).2 _ _ hAgreed rfl with
    ⟨earlier, source₂, hEarlier, _, hSkipped⟩
  exact
    ⟨⟨_, _, hRefuted, rfl,
        (hTrials 2 9 (by decide) (by decide)
          (by decide)).1 _ _ hRefuted rfl⟩,
      ⟨_, _, _, _, hAgreed, rfl, hEarlier, hSkipped⟩,
      _, _, _, _, _, _, hStrict, hLenient, hLe, hRefused,
      hForgiven, hRun⟩

end Termwise
