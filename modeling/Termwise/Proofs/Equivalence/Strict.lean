import Termwise.Equivalence.Strict
import Termwise.Proofs.Equivalence.History

/-
  A check stops for its tolerance alone, and before anything
  is drawn.  Taken in steps that may have no result it makes
  the same report, so none of them is ever without one.

  Key definitions include:
    * `Strict.ofOutcome`

  Main declarations:
    * `Strict.reduce_eq`
    * `Strict.fold_eq`
    * `Strict.toDouble_eq`
    * `Strict.runTrial_eq`
    * `Strict.check_eq`
    * `check_stops_iff`
-/

namespace Termwise

------------------------------------------------------------
-- Reduction
------------------------------------------------------------

namespace Strict

/-
  A remainder is taken by a divisor that is not zero, and so
  is a quotient; the one that is left by rounding down is
  zero just if the division is exact.
-/
theorem exactly_eq
    {op : Op}
    {a b : Int}
    {r : Option Int}
    (h : op.exact? a b = r) :
    exactly op a b = .ok r := by
  rw [← h]
  cases op with
  | add | sub | mul => rfl
  | div =>
      by_cases hZero : b = 0
      · simp only [exactly, Op.exact?, hZero, if_true, ne_eq,
          not_true_eq_false, false_and, if_false]
      · have hRemainder : remainder a b = .ok (a.fmod b) :=
          if_neg hZero
        have hQuotient : quotient a b = .ok (a.fdiv b) :=
          if_neg hZero
        rw [exactly, if_neg hZero, hRemainder, hQuotient,
          Op.exact?]
        -- An exact quotient is the same however it is rounded.
        by_cases hExact : b ∣ a
        · rw [if_pos ⟨hZero, Int.emod_eq_zero_of_dvd hExact⟩,
            ← Int.fdiv_eq_ediv_of_dvd hExact]
          exact if_pos (Int.fmod_eq_zero_of_dvd hExact)
        · have hLeft : a.fmod b ≠ 0 := by
            intro hNone
            exact hExact (Int.dvd_of_fmod_eq_zero hNone)
          have hInexact : ¬ (b ≠ 0 ∧ a % b = 0) := by
            intro hNone
            exact hExact (Int.dvd_of_emod_eq_zero hNone.2)
          rw [if_neg hInexact]
          exact if_neg hLeft

/- Trees are asked for integers that they stand for. -/
theorem join_eq (op : Op) (l r : Tree) :
    join op l r = .ok (Tree.join op l r) := by
  cases hLeft : l.integer? with
  | none => simp [join, Tree.join, Tree.collapse?, hLeft]
  | some a =>
      cases hRight : r.integer? with
      | none =>
          simp [join, Tree.join, Tree.collapse?, hLeft, hRight]
      | some b =>
          rw [join, Tree.join, Tree.collapse?, hLeft, hRight,
            integer, integer, hLeft, hRight]
          simp only [Option.isSome_some, and_self, if_true,
            bind, Except.bind]
          cases hExact : op.exact? a b with
          | none =>
              rw [exactly_eq hExact]
              rfl
          | some n =>
              rw [exactly_eq hExact]
              rfl

/- Every tree can be reduced. -/
theorem reduce_eq (t : Tree) :
    reduce t = .ok t.reduce := by
  induction t with
  | num n => rfl
  | var x => rfl
  | neg t ih =>
      rw [reduce, ih]
      rfl
  | bin op l r ihLeft ihRight =>
      rw [reduce, ihLeft, ihRight]
      exact join_eq op l.reduce r.reduce

------------------------------------------------------------
-- Values
------------------------------------------------------------

/- An outcome, told by what stops it or by its value. -/
def ofOutcome : Outcome → Except Stop (Option Rat)
| .unbound x => .error (.fault (.unbound x))
| .undefined => .ok none
| .value p => .ok (some p)

/- Values are divided by values that are not zero. -/
theorem apply_eq (op : Op) (p q : Rat) :
    apply op p q = ofOutcome (op.apply p q) := by
  cases op with
  | add | sub | mul => rfl
  | div =>
      rw [apply, Op.apply, divide]
      by_cases hZero : q = 0
      · rw [if_pos hZero, if_pos hZero]
        rfl
      · rw [if_neg hZero, if_neg hZero, if_neg hZero]
        rfl

/- Only a variable stops a tree from being folded. -/
theorem fold_eq (t : Tree) :
    fold t = ofOutcome t.outcome := by
  induction t with
  | num n => rfl
  | var x => rfl
  | neg t ih =>
      rw [fold, ih, Tree.outcome]
      cases t.outcome with
      | unbound x => rfl
      | undefined => rfl
      | value p => rfl
  | bin op l r ihLeft ihRight =>
      rw [fold, ihLeft, ihRight, Tree.outcome]
      cases l.outcome with
      | unbound x => rfl
      | undefined =>
          cases r.outcome with
          | unbound | undefined | value => rfl
      | value p =>
          cases r.outcome with
          | unbound | undefined => rfl
          | value q => exact apply_eq op p q

/- The same holds of the tree under an assignment. -/
theorem valueUnder_eq_ofOutcome
    (a : Assignment)
    (t : Tree) :
    valueUnder a t = ofOutcome (Termwise.valueUnder a t) := by
  rw [valueUnder, reduce_eq]
  exact fold_eq _

end Strict

------------------------------------------------------------
-- Doubles
------------------------------------------------------------

/-
  A quotient is rounded to a number of its sign, or to an
  infinity of its sign if it is not zero.
-/
theorem Double.ofQuotient_cases
    (negative : Bool)
    (num den : Nat) :
    (∃ m e,
      ofQuotient negative num den = .finite negative m e) ∨
      num ≠ 0 ∧
        ofQuotient negative num den = .infinite negative := by
  unfold ofQuotient
  by_cases hZero : num = 0
  · exact .inl ⟨0, -1074, if_pos hZero⟩
  · rw [if_neg hZero]
    dsimp only
    -- Whether the mantissa is carried over is of no concern.
    split
    · split
      · exact .inr ⟨hZero, rfl⟩
      · exact .inl ⟨_, _, rfl⟩
    · split
      · exact .inr ⟨hZero, rfl⟩
      · exact .inl ⟨_, _, rfl⟩

/- Every rational number is shown as the double of it. -/
theorem Strict.toDouble_eq (q : Rat) :
    toDouble q = .ok (Double.ofRat q) := by
  have hNonzero : q.den ≠ 0 := q.den_nz
  rw [toDouble, nearest, if_neg hNonzero, Double.ofRat]
  rcases Double.ofQuotient_cases (decide (q.num < 0))
      q.num.natAbs q.den with
    ⟨m, e, hFinite⟩ | ⟨hNum, hInfinite⟩
  · rw [hFinite]
  · have hSign : ¬ 0 < q ↔ q.num < 0 := by
      rw [← Rat.num_pos]
      omega
    rw [hInfinite]
    dsimp only
    rw [decide_eq_decide.mpr hSign]

------------------------------------------------------------
-- Checks
------------------------------------------------------------

namespace Strict

/- A trial stops for a variable without a value at most. -/
theorem runTrial_eq
    (tolerance : Rat)
    (a : Assignment)
    (t u : Tree) :
    runTrial tolerance a t u =
      (Termwise.runTrial tolerance a t u).mapError .fault := by
  rw [runTrial, Termwise.runTrial, valueUnder_eq_ofOutcome,
    valueUnder_eq_ofOutcome]
  cases Termwise.valueUnder a t with
  | unbound x => rfl
  | undefined =>
      cases Termwise.valueUnder a u with
      | unbound | undefined | value => rfl
  | value p =>
      cases Termwise.valueUnder a u with
      | unbound | undefined => rfl
      | value q =>
          simp only [ofOutcome, bind, Except.bind]
          split
          · rfl
          · rfl

section Runs

variable {σ : Type} [Source σ]

/-
  The runs go the same way, trial by trial.  Skipped trials
  are counted here and kept there.
-/
theorem runTrials_eq
    (cfg : Config)
    (tolerance : Rat)
    (names : List String)
    (t u : Tree)
    (skips : List (Nat × Assignment))
    (made left : Nat)
    (s : σ) :
    runTrials cfg tolerance names t u skips.length made left
        s =
      (((Termwise.runTrials cfg tolerance names t u skips made
          left s).1.map Run.report).mapError .fault,
        (Termwise.runTrials cfg tolerance names t u skips made
          left s).2) := by
  -- Each trial may add to the skips, so they are not fixed.
  induction left generalizing skips made s with
  | zero => rfl
  | succ left ih =>
      rw [runTrials, Termwise.runTrials]
      dsimp only
      rw [runTrial_eq]
      cases Termwise.runTrial tolerance
        (drawAll cfg.low cfg.high names s).1 t u with
      | error f => rfl
      | ok trial =>
          cases trial with
          | skipped => exact ih (_ :: skips) (made + 1) _
          | agreed => exact ih skips (made + 1) _
          | refuted p q =>
              simp only [Except.mapError, Except.map,
                refutation, toDouble_eq]
              rfl

/- The check stops for the faults that it is said to have. -/
theorem check_eq
    (cfg : Config)
    (t u : Tree)
    (s : σ) :
    check cfg t u s =
      ((Termwise.check cfg t u s).1.mapError .fault,
        (Termwise.check cfg t u s).2) := by
  rw [check, Termwise.check, checkRun]
  cases cfg.tolerance.asTolerance with
  | error f => rfl
  | ok tolerance =>
      have hRun :=
        runTrials_eq cfg tolerance (variablesOf [t, u]) t u []
          0 cfg.trials s
      rw [List.length_nil] at hRun
      dsimp only
      rw [hRun]
      rcases Termwise.runTrials cfg tolerance
          (variablesOf [t, u]) t u [] 0 cfg.trials s with
        ⟨_ | _, _⟩
      · rfl
      · rfl

end Runs

end Strict

------------------------------------------------------------
-- Faults
------------------------------------------------------------

/- What a tolerance is that has no value to compare with. -/
theorem Double.asTolerance_eq_error
    {x : Double}
    {f : ToleranceFault} :
    x.asTolerance = .error f ↔
      (f = .infinite ∧ ∃ negative, x = .infinite negative) ∨
        (f = .notANumber ∧ x = .nan) := by
  cases x with
  | nan => simp [asTolerance, eq_comm]
  | infinite negative => simp [asTolerance, eq_comm]
  | finite negative m e => simp [asTolerance]

/-
  A check stops just if its tolerance is infinite or is not
  a number, and then before anything is drawn.  With every
  other tolerance it makes a report, whatever the trees are
  and whatever integers are drawn.  So no variable is ever
  without a value, and since the check that is taken in
  steps goes the same way, no divisor is zero and no step is
  without a result.
-/
theorem check_stops_iff
    {σ : Type}
    [Source σ]
    (cfg : Config)
    (t u : Tree)
    (s : σ) :
    let run := check cfg t u (Recorded.start s)
    let strict := Strict.check cfg t u (Recorded.start s)
    (∀ f, run.1 = .error f ↔
      (f = .tolerance .infinite ∧
          ∃ negative, cfg.tolerance = .infinite negative) ∨
        (f = .tolerance .notANumber ∧
          cfg.tolerance = .nan)) ∧
    (∀ f, run.1 = .error f → run.2 = Recorded.start s) ∧
    (cfg.tolerance.isFinite = true →
      ∃ report, run.1 = .ok report) ∧
    strict = (run.1.mapError .fault, run.2) ∧
    ∀ f, strict.1 = .error f →
      ∃ g, f = .fault (.tolerance g) := by
  intro run strict
  have hStrict : strict = (run.1.mapError .fault, run.2) :=
    Strict.check_eq cfg t u (Recorded.start s)
  refine ⟨?_, ?_, ?_, hStrict, ?_⟩
  · intro f
    rw [check_eq_error_iff]
    constructor
    · rintro ⟨g, hFault, rfl⟩
      rw [CheckFault.tolerance.injEq,
        CheckFault.tolerance.injEq]
      exact Double.asTolerance_eq_error.mp hFault
    · rintro (⟨rfl, hInfinite⟩ | ⟨rfl, hNan⟩)
      · exact ⟨_, Double.asTolerance_eq_error.mpr
          (.inl ⟨rfl, hInfinite⟩), rfl⟩
      · exact ⟨_, Double.asTolerance_eq_error.mpr
          (.inr ⟨rfl, hNan⟩), rfl⟩
  · intro f hError
    rcases check_eq_error_iff.mp hError with
      ⟨g, hFault, rfl⟩
    show (check cfg t u (Recorded.start s)).2 = _
    rw [check_of_asTolerance hFault]
  · intro hFinite
    rcases Double.exists_toRat? hFinite with ⟨q, hTolerance⟩
    rcases exists_check_eq_ok hTolerance t u
        (Recorded.start s) with
      ⟨report, source, hReport⟩
    refine ⟨report, ?_⟩
    show (check cfg t u (Recorded.start s)).1 = _
    rw [hReport]
  · intro f hError
    rw [hStrict] at hError
    cases hRun : run.1 with
    | ok report =>
        rw [hRun] at hError
        cases hError
    | error fault =>
        rw [hRun] at hError
        cases hError
        rcases check_eq_error_iff.mp hRun with ⟨g, _, rfl⟩
        exact ⟨g, rfl⟩

end Termwise
