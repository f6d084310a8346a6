import Termwise.Proofs.Reduction.Steps

/-
  Every step of a reduction makes the tree smaller, and a
  reduction without steps leaves the tree as it was.

  Main declarations:
    * `Tree.negatedSteps_progress`
    * `Tree.joinSteps_progress`
    * `Tree.steps_progress`
    * `Tree.steps_eq_nil_iff`
    * `Tree.trace_progress`
-/

namespace Termwise

namespace Tree

------------------------------------------------------------
-- Steps at a Node
------------------------------------------------------------

/- The tree of an integer has two nodes at most. -/
theorem size_ofInt_le (n : Int) : (ofInt n).size ≤ 2 := by
  cases n with
  | ofNat n => exact Nat.le_succ 1
  | negSucc n => exact Nat.le_refl 2

/- A sign that is dropped takes another one with it. -/
theorem negatedSteps_progress (t : Tree) :
    t.negatedSteps.length + t.negated.size ≤
      (neg t).size := by
  cases t with
  | neg u =>
      rw [negatedSteps, negated, List.length_singleton, size,
        size]
      omega
  | num | var | bin => exact Nat.le_of_eq (Nat.zero_add _)

/-
  Three nodes or more collapse in a step, and two of them may
  be left: a sign and a number.
-/
theorem joinSteps_progress
    (op : Op)
    (l r : Tree) :
    (joinSteps op l r).length + (join op l r).size ≤
      (bin op l r).size := by
  unfold joinSteps join
  cases collapse? op l r with
  | none => exact Nat.le_of_eq (Nat.zero_add _)
  | some result =>
      rcases result with ⟨a, b, n⟩
      have hResult := size_ofInt_le n
      have hLeft := l.size_pos
      have hRight := r.size_pos
      show 1 + (ofInt n).size ≤ 1 + l.size + r.size
      omega

/- Without a step the sign stays in front. -/
theorem negated_of_no_steps
    {t : Tree}
    (h : t.negatedSteps = []) :
    t.negated = neg t := by
  cases t with
  | neg u => cases h
  | num | var | bin => rfl

/- Without a step the operation stays. -/
theorem join_of_no_steps
    {op : Op}
    {l r : Tree}
    (h : joinSteps op l r = []) :
    join op l r = bin op l r := by
  cases hCollapse : collapse? op l r with
  | none => rw [join, hCollapse]
  | some result =>
      rw [joinSteps, hCollapse] at h
      cases h

------------------------------------------------------------
-- Steps of a Tree
------------------------------------------------------------

/- Every step takes a node at least off the tree. -/
theorem steps_progress (t : Tree) :
    t.reduceLogged.2.length + t.reduce.size ≤ t.size := by
  induction t with
  | num n => exact Nat.le_refl 1
  | var x => exact Nat.le_refl 1
  | neg t ih =>
      have hNode := t.reduce.negatedSteps_progress
      rw [reduceLogged_neg_snd, List.length_append, reduce]
      rw [size] at hNode ⊢
      omega
  | bin op l r ihLeft ihRight =>
      have hNode := joinSteps_progress op l.reduce r.reduce
      rw [reduceLogged_bin_snd, List.length_append,
        List.length_append, reduce]
      rw [size] at hNode ⊢
      omega

/-
  A tree takes no step just if it is left as it is.  If it is
  then no node is left over for a step.
-/
theorem steps_eq_nil_iff (t : Tree) :
    t.reduceLogged.2 = [] ↔ t.reduce = t := by
  constructor
  · intro h
    induction t with
    | num n => rfl
    | var x => rfl
    | neg t ih =>
        rw [reduceLogged_neg_snd, List.append_eq_nil_iff] at h
        rcases h with ⟨hInner, hLast⟩
        rw [reduce, negated_of_no_steps hLast, ih hInner]
    | bin op l r ihLeft ihRight =>
        rw [reduceLogged_bin_snd, List.append_eq_nil_iff,
          List.append_eq_nil_iff] at h
        rcases h with ⟨⟨hLeft, hRight⟩, hLast⟩
        rw [reduce, join_of_no_steps hLast, ihLeft hLeft,
          ihRight hRight]
  · intro hSame
    have hProgress := t.steps_progress
    rw [hSame] at hProgress
    exact List.eq_nil_of_length_eq_zero (by omega)

/-
  A trace has no more steps than there are nodes that the
  tree has and the result has not.  It has none just if the
  tree is left as it is.
-/
theorem trace_progress
    {t : Tree}
    {r : Trace}
    (hTrace : t.trace = .ok r) :
    r.steps.length + r.result.size ≤ t.size ∧
      (r.steps = [] ↔ t.reduce = t) := by
  rcases trace_eq_ok.mp hTrace with ⟨_, rfl⟩
  refine ⟨?_, ?_⟩
  · rw [List.length_map]
    exact t.steps_progress
  · rw [List.map_eq_nil_iff]
    exact t.steps_eq_nil_iff

/-
  A difference of two numbers that is negative takes a single
  node off, and so does the one step of it.
-/
theorem trace_progress_difference :
    let t := bin .sub (num 1) (num 2)
    let r : Trace := ⟨neg (num 1), ["1 - 2 = -1"]⟩
    t.trace = .ok r ∧
      r.steps.length + r.result.size ≤ t.size ∧
      r.steps.length + r.result.size = 3 ∧ t.size = 3 ∧
      (r.steps = [] ↔ t.reduce = t) := by
  intro t r
  have hTrace : t.trace = .ok r :=
    trace_eq_ok.mpr ⟨by decide +kernel, by decide +kernel⟩
  rcases trace_progress hTrace with ⟨hFewer, hNone⟩
  exact ⟨hTrace, hFewer, rfl, rfl, hNone⟩

end Tree

end Termwise
