import Mathlib.Data.Nat.Count
import Termwise.Proofs.Draw.Stream
import Termwise.Proofs.Equivalence.Trial

/-
  What a run of trials does, told by the stream of integers
  that its source gives.

  Trials are counted from zero here, so that trial `i` is
  the one after `i` others.

  Key definitions include:
    * `sampled`
    * `FirstRefuted`
    * `undefinedBefore`

  Main declarations:
    * `drawAll_after`
    * `runTrials_stopped`
    * `runTrials_passed`
    * `runTrials_refuted`
    * `runTrials_agreed`
-/

namespace Termwise

------------------------------------------------------------
-- Sampling
------------------------------------------------------------

/-
  The assignment of a trial: of each piece of the stream, as
  long as there are variables, the variables get the
  integers in turn.
-/
def sampled
    (names : List String)
    (d : Nat → Int)
    (i : Nat) : Assignment :=
  names.mapIdx fun j x => (x, d (i * names.length + j))

/- Draws from some place on take a piece of the stream. -/
theorem drawAll_stream
    {σ : Type}
    [Source σ]
    (low high : Int)
    (names : List String)
    (s : σ)
    (place : Nat) :
    drawAll low high names (Source.after low high s place) =
      (names.mapIdx fun j x =>
          (x, Source.stream low high s (place + j)),
        Source.after low high s (place + names.length)) := by
  induction names generalizing place with
  | nil => rfl
  | cons x names ih =>
      have hShift :
          ∀ j, place + 1 + j = place + (j + 1) := by
        intro j
        omega
      rw [drawAll, Source.draw_after]
      dsimp only
      rw [ih, List.mapIdx_cons, List.length_cons, ← hShift]
      simp only [hShift, Nat.add_zero]

/- The draws of a trial start where the last trial ended. -/
theorem drawAll_after
    {σ : Type}
    [Source σ]
    (low high : Int)
    (names : List String)
    (s : σ)
    (i : Nat) :
    drawAll low high names
        (Source.after low high s (i * names.length)) =
      (sampled names (Source.stream low high s) i,
        Source.after low high s ((i + 1) * names.length)) := by
  rw [drawAll_stream, Nat.succ_mul]
  rfl

/- A sampled assignment is one of just the variables. -/
theorem sampled_keys
    (names : List String)
    (d : Nat → Int)
    (i : Nat) :
    (sampled names d i).map Prod.fst = names := by
  rw [sampled]
  apply List.ext_getElem
  · rw [List.length_map, List.length_mapIdx]
  · intro j hj hj'
    rw [List.getElem_map, List.getElem_mapIdx]

------------------------------------------------------------
-- Runs
------------------------------------------------------------

/-
  Trial `i` refutes that two expressions are equivalent,
  with the values `p` and `q`, and no trial before it does.
-/
structure FirstRefuted
    (tolerance : Rat)
    (names : List String)
    (d : Nat → Int)
    (t u : Tree)
    (i : Nat)
    (p q : Rat) : Prop where
  refutes : Refutes tolerance (sampled names d i) t u p q
  first :
    ∀ j < i, ∀ p q,
      ¬ Refutes tolerance (sampled names d j) t u p q

/- How many of the first trials are undefined. -/
def undefinedBefore
    (names : List String)
    (d : Nat → Int)
    (t u : Tree)
    (i : Nat) : Nat :=
  Nat.count (fun j => Undefined (sampled names d j) t u) i

/- Before the first trial nothing is skipped. -/
theorem length_no_skips
    (names : List String)
    (d : Nat → Int)
    (t u : Tree) :
    ([] : List (Nat × Assignment)).length =
      undefinedBefore names d t u 0 :=
  (Nat.count_zero _).symm

section Runs

variable {σ : Type} [Source σ]

variable {cfg : Config} {s : σ} {d : Nat → Int}

variable {names : List String} {t u : Tree}

variable (hStream : Source.stream cfg.low cfg.high s = d)

include hStream

/- A trial that refutes is the last one. -/
theorem runTrials_stopped
    {tolerance : Rat}
    {made : Nat}
    {p q : Rat}
    (hRefutes :
      Refutes tolerance (sampled names d made) t u p q)
    (skips : List (Nat × Assignment))
    (left : Nat) :
    runTrials cfg tolerance names t u skips made (left + 1)
        (Source.after cfg.low cfg.high s
          (made * names.length)) =
      (.ok
        ⟨⟨false, names, made + 1, skips.length,
          some
            ⟨sampled names d made, Double.ofRat p,
              Double.ofRat q⟩⟩, skips⟩,
        Source.after cfg.low cfg.high s
          ((made + 1) * names.length)) := by
  rw [runTrials, drawAll_after, hStream]
  dsimp only
  rw [runTrial_refuted hRefutes]

variable
  (hNames : ∀ x, x ∈ t.names ∨ x ∈ u.names → x ∈ names)

include hNames

/-
  A trial that does not refute is followed by the next one,
  and it is counted if it is undefined.
-/
theorem runTrials_passed
    {tolerance : Rat}
    {made : Nat}
    (hPassed :
      ∀ p q,
        ¬ Refutes tolerance (sampled names d made) t u p q)
    {skips : List (Nat × Assignment)}
    (hSkips :
      skips.length = undefinedBefore names d t u made)
    (left : Nat) :
    ∃ skips',
      skips'.length =
          undefinedBefore names d t u (made + 1) ∧
        runTrials cfg tolerance names t u skips made (left + 1)
            (Source.after cfg.low cfg.high s
              (made * names.length)) =
          runTrials cfg tolerance names t u skips' (made + 1)
            left
            (Source.after cfg.low cfg.high s
              ((made + 1) * names.length)) := by
  rw [← sampled_keys names d made] at hNames
  rw [undefinedBefore, Nat.count_succ, ← undefinedBefore,
    ← hSkips, runTrials, drawAll_after, hStream]
  dsimp only
  by_cases hUndefined : Undefined (sampled names d made) t u
  · rw [runTrial_skipped hNames hUndefined, if_pos hUndefined]
    exact ⟨_ :: skips, rfl, rfl⟩
  · rw [runTrial_agreed hNames hUndefined hPassed,
      if_neg hUndefined]
    exact ⟨skips, rfl, rfl⟩

/-
  A run ends with the first trial that refutes.  The
  induction is on the trials that are left; the skips
  of the trials made so far are the undefined ones.
-/
theorem runTrials_refuted
    {tolerance : Rat}
    {i made left : Nat}
    {p q : Rat}
    (hFirst : FirstRefuted tolerance names d t u i p q)
    (hMade : made ≤ i)
    (hLeft : i < made + left)
    {skips : List (Nat × Assignment)}
    (hSkips :
      skips.length = undefinedBefore names d t u made) :
    ∃ skips',
      runTrials cfg tolerance names t u skips made left
          (Source.after cfg.low cfg.high s
            (made * names.length)) =
        (.ok
          ⟨⟨false, names, i + 1, undefinedBefore names d t u i,
            some
              ⟨sampled names d i, Double.ofRat p,
                Double.ofRat q⟩⟩, skips'⟩,
          Source.after cfg.low cfg.high s
            ((i + 1) * names.length)) := by
  induction left generalizing made skips with
  | zero => omega
  | succ left ih =>
      by_cases hNow : made = i
      · subst hNow
        refine ⟨skips, ?_⟩
        rw [runTrials_stopped hStream hFirst.refutes, hSkips]
      · have hPassed := hFirst.first made (by omega)
        rcases runTrials_passed hStream hNames hPassed hSkips
            left with
          ⟨skips', hSkips', hRun⟩
        rw [hRun]
        exact ih (by omega) (by omega) hSkips'

/- A run in which no trial refutes makes all its trials. -/
theorem runTrials_agreed
    {tolerance : Rat}
    {made left : Nat}
    (hPassed :
      ∀ i < made + left, ∀ p q,
        ¬ Refutes tolerance (sampled names d i) t u p q)
    {skips : List (Nat × Assignment)}
    (hSkips :
      skips.length = undefinedBefore names d t u made) :
    ∃ skips',
      runTrials cfg tolerance names t u skips made left
          (Source.after cfg.low cfg.high s
            (made * names.length)) =
        (.ok
          ⟨⟨true, names, made + left,
            undefinedBefore names d t u (made + left),
            none⟩, skips'⟩,
          Source.after cfg.low cfg.high s
            ((made + left) * names.length)) := by
  induction left generalizing made skips with
  | zero =>
      refine ⟨skips, ?_⟩
      rw [runTrials, hSkips]
      rfl
  | succ left ih =>
      have hNow := hPassed made (by omega)
      have hShift : made + (left + 1) = made + 1 + left := by
        omega
      rcases runTrials_passed hStream hNames hNow hSkips left
        with ⟨skips', hSkips', hRun⟩
      rw [hShift] at hPassed
      rw [hRun, hShift]
      exact ih hPassed hSkips'

end Runs

end Termwise
