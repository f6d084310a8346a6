import Termwise.Proofs.Equivalence.Verdict

/-
  An equivalence check does not depend on which of the trees
  is on which side.

  Key definitions include:
    * `Counterexample.exchanged`
    * `Report.exchanged`

  Main declarations:
    * `variablesOf_exchange`
    * `FirstRefuted.exchange`
    * `undefinedBefore_exchange`
    * `check_exchange`
-/

namespace Termwise

------------------------------------------------------------
-- Reports
------------------------------------------------------------

/- A counterexample with its values exchanged. -/
def Counterexample.exchanged
    (c : Counterexample) : Counterexample :=
  ⟨c.assignment, c.right, c.left⟩

/- A report with the values of its counterexample exchanged. -/
def Report.exchanged (r : Report) : Report :=
  { r with
    counterexample :=
      r.counterexample.map Counterexample.exchanged }

------------------------------------------------------------
-- Trials
------------------------------------------------------------

/- The variables of two trees have no side. -/
theorem variablesOf_exchange (t u : Tree) :
    variablesOf [u, t] = variablesOf [t, u] := by
  refine variablesOf_eq (variablesOf_ascending _) ?_
  intro x
  rw [mem_variablesOf, or_comm]

/- A trial is undefined whichever side divides by zero. -/
theorem undefined_exchange
    (a : Assignment)
    (t u : Tree) :
    Undefined a u t ↔ Undefined a t u :=
  or_comm

/- As many trials are undefined in either order. -/
theorem undefinedBefore_exchange
    (names : List String)
    (d : Nat → Int)
    (t u : Tree)
    (i : Nat) :
    undefinedBefore names d u t i =
      undefinedBefore names d t u i := by
  simp only [undefinedBefore, undefined_exchange]

section Trials

variable {tolerance : Rat} {t u : Tree} {p q : Rat}

/- What refutes in one order does so in the other. -/
theorem Refutes.exchange
    {a : Assignment}
    (h : Refutes tolerance a t u p q) :
    Refutes tolerance a u t q p := by
  refine ⟨h.right, h.left, ?_⟩
  rw [abs_sub_comm]
  exact h.apart

/- So the first trial to refute is the same in both. -/
theorem FirstRefuted.exchange
    {names : List String}
    {d : Nat → Int}
    {i : Nat}
    (h : FirstRefuted tolerance names d t u i p q) :
    FirstRefuted tolerance names d u t i q p := by
  refine ⟨h.refutes.exchange, ?_⟩
  intro j hBefore p' q' hEarlier
  exact h.first j hBefore q' p' hEarlier.exchange

end Trials

------------------------------------------------------------
-- Checks
------------------------------------------------------------

/-
  Two trees are checked in either order with the same draws,
  which leave the source in the same state, and with the
  same report but for the values of a counterexample, which
  change places.
-/
theorem check_exchange
    {σ : Type}
    [Source σ]
    {cfg : Config}
    (hFinite : cfg.tolerance.isFinite = true)
    (t u : Tree)
    (s : σ) :
    ∃ report source,
      check cfg t u (Recorded.start s) =
          (.ok report, source) ∧
        check cfg u t (Recorded.start s) =
          (.ok report.exchanged, source) := by
  rcases Double.exists_toRat? hFinite with
    ⟨tolerance, hTolerance⟩
  have hNames := variablesOf_exchange t u
  rcases firstRefuted_or_passed tolerance
      (variablesOf [t, u])
      (Source.stream cfg.low cfg.high (Recorded.start s))
      t u cfg.trials with
    ⟨i, p, q, hBound, hFirst⟩ | hPassed
  · refine ⟨_, _, check_refuted hTolerance rfl hBound hFirst,
      ?_⟩
    have hOther := hFirst.exchange
    rw [← hNames] at hOther
    rw [check_refuted hTolerance rfl hBound hOther, hNames,
      undefinedBefore_exchange]
    rfl
  · refine ⟨_, _, check_agreed hTolerance rfl hPassed, ?_⟩
    rw [check_agreed hTolerance rfl, hNames,
      undefinedBefore_exchange]
    · rfl
    · intro i hBound p q hRefutes
      rw [hNames] at hRefutes
      exact hPassed i hBound q p hRefutes.exchange

/-
  Of these samples, `1 / x` and `y` are undefined in the
  first trial and `1 / 2` and `3` in the second one.
-/
theorem check_exchange_inverse :
    let t := Tree.bin .div (.num 1) (.var "x")
    let u := Tree.var "y"
    let s := Recorded.start (Samples.ofList [0, 1, 2, 3])
    let report : Report :=
      ⟨false, ["x", "y"], 2, 1,
        some
          ⟨[("x", 2), ("y", 3)], .ofRat (1 / 2), .ofRat 3⟩⟩
    ∃ source,
      Config.standard.tolerance.isFinite = true ∧
      check Config.standard t u s = (.ok report, source) ∧
      check Config.standard u t s =
        (.ok report.exchanged, source) := by
  intro t u s report
  have hFinite :
      Config.standard.tolerance.isFinite = true := by
    rfl
  have hReport :
      (check Config.standard t u s).1 = .ok report := by
    decide +kernel
  rcases check_exchange hFinite t u
      (Samples.ofList [0, 1, 2, 3]) with
    ⟨found, source, hGiven, hOther⟩
  rw [show check Config.standard t u s = (.ok found, source)
    from hGiven] at hReport
  cases hReport
  exact ⟨source, hFinite, hGiven, hOther⟩

end Termwise
