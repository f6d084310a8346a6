import Mathlib.Data.List.Basic
import Termwise.Proofs.Reduction.Steps
import Termwise.Proofs.Syntax.Acceptance
import Termwise.Proofs.Tree.Parts

/-
  Reduction makes no tree deeper, and replacing variables by
  integers adds one level at most.  So the trees that come up
  when an accepted text is reduced or checked are hardly
  deeper than the limit that the text was measured by.

  Key definitions include:
    * `Tree.Meets`

  Main declarations:
    * `Tree.depth_le_of_mem_parts`
    * `Tree.depth_substitute_le`
    * `Tree.depth_le_of_meets`
    * `Tree.meets_of_mem_steps`
    * `Tree.reduction_depth`
-/

namespace Termwise

namespace Tree

------------------------------------------------------------
-- Parts and Substitution
------------------------------------------------------------

/- A part is no deeper than the tree. -/
theorem depth_le_of_mem_parts
    {p t : Tree}
    (h : p ∈ t.parts) :
    p.depth ≤ t.depth := by
  induction t with
  | num n | var x =>
      exact Nat.le_of_eq (congrArg depth
        (List.mem_singleton.mp h))
  | neg t ih =>
      rcases mem_parts_neg.mp h with rfl | hInner
      · exact Nat.le_refl _
      · exact Nat.le_trans (ih hInner) (Nat.le_add_left _ 1)
  | bin op l r ihLeft ihRight =>
      rcases mem_parts_bin.mp h with rfl | hLeft | hRight
      · exact Nat.le_refl _
      · have hDepth := ihLeft hLeft
        rw [depth]
        omega
      · have hDepth := ihRight hRight
        rw [depth]
        omega

/- A variable is a leaf, and an integer has two levels. -/
theorem depth_substitute_le
    (t : Tree)
    (value? : String → Option Int) :
    (t.substitute value?).depth ≤ t.depth + 1 := by
  induction t with
  | num n => exact Nat.le_succ 1
  | var x =>
      rw [substitute]
      cases value? x with
      | none => exact Nat.le_succ 1
      | some n => exact depth_ofInt_le n
  | neg t ih =>
      rw [substitute, depth, depth]
      omega
  | bin op l r ihLeft ihRight =>
      rw [substitute, depth, depth]
      omega

------------------------------------------------------------
-- Trees That Are Met
------------------------------------------------------------

/-
  The trees that are met when a tree is reduced and what is
  met is printed or given a value.

    * `given`, `reduced`: reduction starts from the tree and
      returns the reduced tree.
    * `operand`, `left`, `right`: it reduces the operands
      first.
    * `part`: to print a tree or to give it a value is to
      walk over its parts.
-/
inductive Meets : Tree → Tree → Prop where
| given (t : Tree) : Meets t t
| reduced (t : Tree) : Meets t t.reduce
| operand {t u : Tree} : Meets t u → Meets (neg t) u
| left {op : Op} {l r u : Tree} :
    Meets l u → Meets (bin op l r) u
| right {op : Op} {l r u : Tree} :
    Meets r u → Meets (bin op l r) u
| part {t u p : Tree} : Meets t u → p ∈ u.parts → Meets t p

/- None of them is deeper than the tree. -/
theorem depth_le_of_meets
    {t u : Tree}
    (h : t.Meets u) :
    u.depth ≤ t.depth := by
  induction h with
  | given t => exact Nat.le_refl _
  | reduced t => exact t.depth_reduce_le
  | operand _ ih => exact Nat.le_trans ih (Nat.le_add_left _ 1)
  | left _ ih | right _ ih =>
      rw [depth]
      omega
  | part _ hPart ih =>
      exact Nat.le_trans (depth_le_of_mem_parts hPart) ih

/- The trees that steps are written with are met. -/
theorem meets_of_mem_steps
    {t : Tree}
    {s : Step}
    (h : s ∈ t.reduceLogged.2) :
    t.Meets s.right := by
  induction t with
  | num n => cases h
  | var x => cases h
  | neg t ih =>
      rw [reduceLogged_neg_snd] at h
      rcases List.mem_append.mp h with hInner | hLast
      · exact .operand (ih hInner)
      · rcases mem_negatedSteps.mp hLast with ⟨u, hReduce, rfl⟩
        have hReduced := Meets.reduced t
        rw [hReduce] at hReduced
        exact .operand
          (hReduced.part (mem_parts_neg.mpr
            (.inr u.self_mem_parts)))
  | bin op l r ihLeft ihRight =>
      rw [reduceLogged_bin_snd, List.mem_append,
        List.mem_append] at h
      rcases h with (hLeft | hRight) | hLast
      · exact .left (ihLeft hLeft)
      · exact .right (ihRight hRight)
      · rcases mem_joinSteps.mp hLast with
          ⟨a, b, n, hFirst, hSecond, hExact, rfl⟩
        have hReduced := Meets.reduced (bin op l r)
        rw [reduce, join_of_integers hFirst hSecond hExact]
          at hReduced
        exact hReduced

------------------------------------------------------------
-- Levels
------------------------------------------------------------

/-
  A reduced tree has no more levels than the tree, and one
  more at most if integers took the place of variables.  What
  is met in reducing an accepted expression has no more
  levels than may be read, so that this holds of the results
  of its steps, too; and what is met in checking it has one
  more at most.
-/
theorem reduction_depth (t : Tree) :
    t.reduce.levels ≤ t.levels ∧
      (∀ value?,
        (t.substitute value?).reduce.levels ≤ t.levels + 1) ∧
      ∀ text, parse text = .ok t →
        (∀ u, t.Meets u → u.levels ≤ depthLimit) ∧
        (∀ s ∈ t.reduceLogged.2,
          s.right.levels ≤ depthLimit) ∧
        ∀ value? u, (t.substitute value?).Meets u →
          u.levels ≤ depthLimit + 1 := by
  simp only [levels_eq_depth]
  refine ⟨t.depth_reduce_le, ?_, ?_⟩
  · intro value?
    exact Nat.le_trans (depth_reduce_le _)
      (t.depth_substitute_le value?)
  · intro text hParse
    rcases parse_eq_ok.mp hParse with ⟨_, _, _, hLimit⟩
    refine ⟨?_, ?_, ?_⟩
    · intro u hMeets
      exact Nat.le_trans (depth_le_of_meets hMeets) hLimit
    · intro s hs
      exact Nat.le_trans
        (depth_le_of_meets (meets_of_mem_steps hs)) hLimit
    · intro value? u hMeets
      have hDepth := depth_le_of_meets hMeets
      have hMore := t.depth_substitute_le value?
      omega

/- The level more is met if a variable has a negative value. -/
theorem reduction_depth_negative :
    let t := bin .div (num 1) (var "x")
    let u := t.substitute fun _ => some (-2)
    parse "1 / x" = .ok t ∧ t.levels = 2 ∧
      u.Meets u.reduce ∧ u.reduce.levels = 3 ∧
      u.reduce.levels ≤ t.levels + 1 ∧
      u.reduce.levels ≤ depthLimit + 1 := by
  intro t u
  have hParse : parse "1 / x" = .ok t := by cbv
  have hMeets : u.Meets u.reduce := .reduced u
  rcases t.reduction_depth with ⟨_, hMore, hMet⟩
  exact ⟨hParse, by cbv, hMeets, by cbv, hMore _,
    (hMet _ hParse).2.2 _ _ hMeets⟩

end Tree

end Termwise
