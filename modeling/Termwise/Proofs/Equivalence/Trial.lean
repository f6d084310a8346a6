import Mathlib.Algebra.Order.Field.Rat
import Mathlib.Algebra.Order.Group.Abs
import Mathlib.Tactic.Push
import Termwise.Equivalence.Check
import Termwise.Proofs.Reduction.Meaning

/-
  What one trial of an equivalence check does, told by the
  trees as they are given and not by the reduced ones.

  Key definitions include:
    * `Undefined`
    * `Refutes`

  Main declarations:
    * `Assignment.isSome_value?`
    * `valueUnder_eq`
    * `runTrial_refuted`
    * `runTrial_skipped`
    * `runTrial_agreed`
-/

namespace Termwise

------------------------------------------------------------
-- Assignments
------------------------------------------------------------

/- The names of an assignment are those that have a value. -/
theorem Assignment.isSome_value?
    {a : Assignment}
    {x : String}
    (h : x ∈ a.map Prod.fst) :
    (a.value? x).isSome := by
  rw [value?, List.lookup_isSome_iff]
  rcases List.mem_map.mp h with ⟨pair, hMem, hKey⟩
  exact ⟨pair, hMem, by rw [hKey]; exact beq_self_eq_true x⟩

------------------------------------------------------------
-- Judging an Assignment
------------------------------------------------------------

/- A side divides by zero under an assignment. -/
def Undefined (a : Assignment) (t u : Tree) : Prop :=
  (t.substitute a.value?).outcome = .undefined ∨
    (u.substitute a.value?).outcome = .undefined

instance (a : Assignment) (t u : Tree) :
    Decidable (Undefined a t u) := by
  unfold Undefined
  infer_instance

/-
  Under an assignment the sides have values `p` and `q`, and
  these differ by more than the tolerance.
-/
structure Refutes
    (tolerance : Rat)
    (a : Assignment)
    (t u : Tree)
    (p q : Rat) : Prop where
  left : (t.substitute a.value?).outcome = .value p
  right : (u.substitute a.value?).outcome = .value q
  apart : tolerance < |p - q|

------------------------------------------------------------
-- One Trial
------------------------------------------------------------

/- Reducing the sides does not change what becomes of them. -/
theorem valueUnder_eq (a : Assignment) (t : Tree) :
    valueUnder a t = (t.substitute a.value?).outcome :=
  Tree.outcome_reduce _

/- The distance of two numbers is the size of the difference. -/
theorem distance_eq (p q : Rat) :
    distance p q = |p - q| := by
  rw [distance]
  by_cases hLe : p ≤ q
  · rw [if_pos hLe, abs_sub_comm,
      abs_of_nonneg (sub_nonneg.mpr hLe)]
  · rw [if_neg hLe,
      abs_of_nonneg (sub_nonneg.mpr (le_of_not_ge hLe))]

section Trials

variable {tolerance : Rat} {a : Assignment} {t u : Tree}

/- Two values that lie too far apart are a refutation. -/
theorem runTrial_refuted
    {p q : Rat}
    (h : Refutes tolerance a t u p q) :
    runTrial tolerance a t u = .ok (.refuted p q) := by
  rw [runTrial, valueUnder_eq, valueUnder_eq, h.left, h.right]
  dsimp only
  rw [distance_eq, if_pos h.apart]

/- With values for all variables a side has one or divides. -/
theorem outcome_cases
    (h : ∀ x ∈ t.names, x ∈ a.map Prod.fst) :
    (t.substitute a.value?).outcome = .undefined ∨
      ∃ p, (t.substitute a.value?).outcome = .value p := by
  have hBound :=
    Tree.outcome_substitute_ne_unbound fun x hMem =>
      Assignment.isSome_value? (h x hMem)
  cases hOutcome : (t.substitute a.value?).outcome with
  | unbound x => exact absurd hOutcome (hBound x)
  | undefined => exact .inl rfl
  | value p => exact .inr ⟨p, rfl⟩

variable
  (hNames :
    ∀ x, x ∈ t.names ∨ x ∈ u.names → x ∈ a.map Prod.fst)

include hNames

/- A trial with a division by zero on a side is skipped. -/
theorem runTrial_skipped
    (h : Undefined a t u) :
    runTrial tolerance a t u = .ok .skipped := by
  have hLeft :=
    outcome_cases fun x hMem => hNames x (.inl hMem)
  have hRight :=
    outcome_cases fun x hMem => hNames x (.inr hMem)
  rw [runTrial, valueUnder_eq, valueUnder_eq]
  rcases hLeft with hLeft | ⟨p, hLeft⟩
  · rw [hLeft]
    rcases hRight with hRight | ⟨q, hRight⟩
    · rw [hRight]
    · rw [hRight]
  · rcases hRight with hRight | ⟨q, hRight⟩
    · rw [hLeft, hRight]
    · rcases h with hZero | hZero
      · rw [hLeft] at hZero
        cases hZero
      · rw [hRight] at hZero
        cases hZero

/- In every other trial the sides agree. -/
theorem runTrial_agreed
    (hDefined : ¬ Undefined a t u)
    (hPassed : ∀ p q, ¬ Refutes tolerance a t u p q) :
    runTrial tolerance a t u = .ok .agreed := by
  have hLeft :=
    outcome_cases fun x hMem => hNames x (.inl hMem)
  have hRight :=
    outcome_cases fun x hMem => hNames x (.inr hMem)
  rcases hLeft with hLeft | ⟨p, hLeft⟩
  · exact absurd (.inl hLeft) hDefined
  · rcases hRight with hRight | ⟨q, hRight⟩
    · exact absurd (.inr hRight) hDefined
    · rw [runTrial, valueUnder_eq, valueUnder_eq, hLeft,
        hRight]
      dsimp only
      rw [distance_eq, if_neg]
      intro hApart
      exact hPassed p q ⟨hLeft, hRight, hApart⟩

end Trials

end Termwise
