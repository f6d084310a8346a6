import Termwise.Draw.Twister
import Termwise.Proofs.Equivalence.Verdict

/-
  What a check reports stays within its settings: it counts
  no more trials than were asked for, and it assigns integers
  of the range to the variables, if its source keeps to the
  range as a twister does.

  Key definitions include:
    * `Source.InRange`
    * `Report.Within`

  Main declarations:
    * `Twister.inRange`
    * `within_of_check`
-/

namespace Termwise

------------------------------------------------------------
-- Sources
------------------------------------------------------------

/- Integers that a source is asked for are in the range. -/
def Source.InRange (σ : Type) [Source σ] : Prop :=
  ∀ (low high : Int) (s : σ), low < high →
    low ≤ (draw low high s).1 ∧ (draw low high s).1 < high

/- A source that keeps to ranges does so all the time. -/
theorem Source.InRange.stream
    {σ : Type}
    [Source σ]
    (hRange : InRange σ)
    {low high : Int}
    (hLess : low < high)
    (s : σ)
    (n : Nat) :
    low ≤ stream low high s n ∧ stream low high s n < high :=
  hRange low high (after low high s n) hLess

namespace Twister

/- A number below a positive one is less than that. -/
theorem below_lt
    {n : Nat}
    (hPositive : 0 < n)
    (tries : Nat)
    (t : Twister) :
    (below n tries t).1 < n := by
  induction tries generalizing t with
  | zero => exact hPositive
  | succ tries ih =>
      rcases hBits : t.bits (n.log2 + 1) with ⟨x, t₂⟩
      simp only [below, hBits]
      split
      · next hLess => exact hLess
      · exact ih t₂

/- A twister keeps to the ranges that it is asked for. -/
theorem inRange : Source.InRange Twister := by
  intro low high t hLess
  have hBelow := below_lt
    (n := (high - low).toNat) (by omega) tries t
  show low ≤ low + ((below _ tries t).1 : Int) ∧
    low + ((below _ tries t).1 : Int) < high
  omega

end Twister

------------------------------------------------------------
-- Reports
------------------------------------------------------------

/-
  A report counts no more trials than the settings allow,
  and assigns values of their range.
-/
structure Report.Within
    (r : Report)
    (cfg : Config) : Prop where
  trialsRun : r.trialsRun ≤ cfg.trials
  trialsSkipped : r.trialsSkipped ≤ cfg.trials
  assigned :
    ∀ c ∈ r.counterexample, ∀ f ∈ c.assignment,
      cfg.low ≤ f.2 ∧ f.2 < cfg.high

/- No more trials are undefined than are made. -/
theorem undefinedBefore_le
    (names : List String)
    (d : Nat → Int)
    (t u : Tree)
    (i : Nat) :
    undefinedBefore names d t u i ≤ i :=
  Nat.count_le _

/- A check by a source that keeps to ranges keeps to them. -/
theorem within_of_check
    {σ : Type}
    [Source σ]
    (hRange : Source.InRange σ)
    {cfg : Config}
    {t u : Tree}
    {s s₂ : σ}
    {report : Report}
    (h : check cfg t u s = (.ok report, s₂)) :
    report.Within cfg := by
  rcases check_cases h with
    ⟨_, _, ⟨i, p, q, hBound, _, rfl⟩ | ⟨_, rfl⟩⟩
  · refine ⟨hBound, ?_, ?_⟩
    · exact (undefinedBefore_le _ _ _ _ i).trans hBound.le
    · intro c hc f hf
      cases hc
      rcases List.mem_mapIdx.mp hf with ⟨j, _, rfl⟩
      exact hRange.stream cfg.low_lt_high s _
  · refine ⟨Nat.le_refl _, undefinedBefore_le _ _ _ _ _, ?_⟩
    intro c hc
    cases hc

end Termwise
