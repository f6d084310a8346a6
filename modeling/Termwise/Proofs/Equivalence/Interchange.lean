import Termwise.Proofs.Equivalence.Verdict
import Termwise.Proofs.Reduction.Substitution

/-
  An equivalence check does not look into its operands.  Two
  trees with the same variables and the same outcomes may
  take each other's place, and so may a tree and the reduced
  one.

  Key definitions include:
    * `Tree.Alike`

  Main declarations:
    * `Tree.alike_reduce`
    * `runTrials_alike`
    * `check_alike`
    * `exists_check_eq_ok`
    * `check_same`
    * `check_self`
    * `check_reduce`
-/

namespace Termwise

------------------------------------------------------------
-- Trees That Are Alike
------------------------------------------------------------

/-
  Two trees have the same variables in the same order, and
  the same outcome under every assignment.
-/
structure Tree.Alike (t u : Tree) : Prop where
  names : t.names = u.names
  outcome :
    ∀ value?,
      (t.substitute value?).outcome =
        (u.substitute value?).outcome

/- Every tree is like itself. -/
theorem Tree.Alike.refl (t : Tree) : t.Alike t :=
  ⟨rfl, fun _ => rfl⟩

/- A reduced tree is like the tree itself. -/
theorem Tree.alike_reduce (t : Tree) : t.reduce.Alike t :=
  ⟨t.names_reduce, t.outcome_substitute_reduce⟩

/- Trees that are alike have the same variables to draw for. -/
theorem variablesOf_alike
    {t t' u u' : Tree}
    (hLeft : t.Alike t')
    (hRight : u.Alike u') :
    variablesOf [t, u] = variablesOf [t', u'] := by
  simp only [variablesOf, List.flatMap_cons, hLeft.names,
    hRight.names]

/- Trials do not tell trees that are alike apart. -/
theorem runTrial_alike
    {t t' u u' : Tree}
    (hLeft : t.Alike t')
    (hRight : u.Alike u')
    (tolerance : Rat)
    (a : Assignment) :
    runTrial tolerance a t u = runTrial tolerance a t' u' := by
  have hLeftValue : valueUnder a t = valueUnder a t' := by
    rw [valueUnder_eq, valueUnder_eq, hLeft.outcome]
  have hRightValue : valueUnder a u = valueUnder a u' := by
    rw [valueUnder_eq, valueUnder_eq, hRight.outcome]
  rw [runTrial, runTrial, hLeftValue, hRightValue]

------------------------------------------------------------
-- Runs
------------------------------------------------------------

section Runs

variable {σ : Type} [Source σ]

/-
  Runs on trees that are alike go the same way, trial by
  trial, and end with the same source.
-/
theorem runTrials_alike
    {t t' u u' : Tree}
    (hLeft : t.Alike t')
    (hRight : u.Alike u')
    (cfg : Config)
    (tolerance : Rat)
    (names : List String)
    (skips : List (Nat × Assignment))
    (made left : Nat)
    (s : σ) :
    runTrials cfg tolerance names t u skips made left s =
      runTrials cfg tolerance names t' u' skips made left
        s := by
  -- A trial that ends differently would change all that is
  -- carried to the next one, so none of it is fixed.
  induction left generalizing skips made s with
  | zero => rfl
  | succ left ih =>
      simp only [runTrials, runTrial_alike hLeft hRight, ih]

/- Checks do not tell trees that are alike apart. -/
theorem check_alike
    {t t' u u' : Tree}
    (hLeft : t.Alike t')
    (hRight : u.Alike u')
    (cfg : Config)
    (s : σ) :
    check cfg t u s = check cfg t' u' s := by
  simp only [check, checkRun, variablesOf_alike hLeft hRight,
    runTrials_alike hLeft hRight]

variable {cfg : Config} {tolerance : Rat}

variable
  (hTolerance : cfg.tolerance.toRat? = some tolerance)

include hTolerance

/- With a tolerance to compare with every check reports. -/
theorem exists_check_eq_ok
    (t u : Tree)
    (s : σ) :
    ∃ report s', check cfg t u s = (.ok report, s') := by
  rcases firstRefuted_or_passed tolerance
      (variablesOf [t, u])
      (Source.stream cfg.low cfg.high s) t u cfg.trials with
    ⟨i, p, q, hBound, hFirst⟩ | hPassed
  · exact ⟨_, _, check_refuted hTolerance rfl hBound hFirst⟩
  · exact ⟨_, _, check_agreed hTolerance rfl hPassed⟩

/-
  No trial tells trees apart that have the same outcome under
  every assignment.
-/
theorem check_same
    {t u : Tree}
    (hNonneg : 0 ≤ tolerance)
    (hSame :
      ∀ value?,
        (t.substitute value?).outcome =
          (u.substitute value?).outcome)
    (s : σ) :
    ∃ skipped s', skipped ≤ cfg.trials ∧
      check cfg t u s =
        (.ok
          ⟨true, variablesOf [t, u], cfg.trials, skipped,
            none⟩,
          s') := by
  refine ⟨_, _, Nat.count_le _,
    check_agreed hTolerance rfl ?_⟩
  intro i hBound p q hRefutes
  have hValues : p = q := by
    have hValue := hRefutes.left
    rw [hSame, hRefutes.right] at hValue
    cases hValue
    rfl
  have hApart := hRefutes.apart
  rw [hValues, sub_self, abs_zero] at hApart
  exact absurd hApart (not_lt.mpr hNonneg)

/- So none tells a tree from itself. -/
theorem check_self
    (hNonneg : 0 ≤ tolerance)
    (t : Tree)
    (s : σ) :
    ∃ report s', check cfg t t s = (.ok report, s') ∧
      report.equivalent = true := by
  rcases check_same hTolerance hNonneg (fun _ => rfl) s with
    ⟨skipped, s', _, hCheck⟩
  exact ⟨_, _, hCheck, rfl⟩

end Runs

------------------------------------------------------------
-- Reduced Operands
------------------------------------------------------------

/-
  Reducing an operand changes nothing of a check, whatever
  the source and its state.  The same report is made, and
  the source, in which all draws are recorded, is left in
  the same state.  Unless the tolerance is negative, a tree
  and the reduced one are found equivalent.
-/
theorem check_reduce
    {σ : Type}
    [Source σ]
    {cfg : Config}
    {tolerance : Rat}
    (hTolerance : cfg.tolerance.toRat? = some tolerance)
    (t u : Tree)
    (s : σ) :
    (∃ report source,
      check cfg t u (Recorded.start s) =
          (.ok report, source) ∧
        check cfg t.reduce u (Recorded.start s) =
          (.ok report, source) ∧
        check cfg t u.reduce (Recorded.start s) =
          (.ok report, source)) ∧
    (0 ≤ tolerance →
      ∃ report source,
        check cfg t t.reduce (Recorded.start s) =
            (.ok report, source) ∧
          report.equivalent = true) := by
  constructor
  · rcases exists_check_eq_ok hTolerance t u
        (Recorded.start s) with
      ⟨report, source, hCheck⟩
    refine ⟨report, source, hCheck, ?_, ?_⟩
    · rw [check_alike t.alike_reduce (.refl u), hCheck]
    · rw [check_alike (.refl t) u.alike_reduce, hCheck]
  · intro hNonneg
    rw [check_alike (.refl t) t.alike_reduce]
    exact check_self hTolerance hNonneg t _

/-
  The quotient of a doubly negated variable and `2 - 2` may
  be reduced to `x / 0` before it is compared with `y`.
-/
theorem check_reduce_quotient :
    let t := Tree.bin .div (.neg (.neg (.var "x")))
      (.bin .sub (.num 2) (.num 2))
    let s := Recorded.start (Tape.mk (fun n => n) 0)
    ∃ tolerance report source,
      Config.standard.tolerance.toRat? = some tolerance ∧
      0 ≤ tolerance ∧
      check Config.standard t (.var "y") s =
        (.ok report, source) ∧
      check Config.standard (.bin .div (.var "x") (.num 0))
          (.var "y") s =
        (.ok report, source) ∧
      ∃ report source,
        check Config.standard t
            (.bin .div (.var "x") (.num 0)) s =
          (.ok report, source) ∧
        report.equivalent = true := by
  intro t s
  have hTolerance :
      Config.standard.tolerance.toRat? =
        some (Double.magnitude 7378697629483821 (-66)) := by
    rfl
  have hNonneg :
      0 ≤ Double.magnitude 7378697629483821 (-66) := by
    decide
  rcases check_reduce hTolerance t (.var "y")
      (Tape.mk (fun n => n) 0) with
    ⟨⟨report, source, hGiven, hReduced, _⟩, hSelf⟩
  exact ⟨_, report, source, hTolerance, hNonneg, hGiven,
    hReduced, hSelf hNonneg⟩

end Termwise
