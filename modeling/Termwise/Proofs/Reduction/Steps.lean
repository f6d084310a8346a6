import Termwise.Proofs.Reduction.Substitution
import Termwise.Proofs.Tree.Depth

/-
  The steps of a reduction lead to the reduced tree.  Each is
  an equation between two trees that have the same reduced
  tree, and that are no deeper than the tree at the start.

  Key definitions include:
    * `Step.left`
    * `Step.right`
    * `Step.Within`

  Main declarations:
    * `Tree.reduceLogged_fst`
    * `Tree.trace_eq_ok`
    * `Tree.depth_reduce_le`
    * `Step.reduce_left`
    * `Tree.within_of_mem_steps`
-/

namespace Termwise

namespace Tree

------------------------------------------------------------
-- Logged Reductions
------------------------------------------------------------

/- Keeping the steps does not change what a tree becomes. -/
theorem reduceLogged_fst (t : Tree) :
    t.reduceLogged.1 = t.reduce := by
  induction t with
  | num n => rfl
  | var x => rfl
  | neg t ih =>
      show t.reduceLogged.1.negated = t.reduce.negated
      rw [ih]
  | bin op l r ihLeft ihRight =>
      show join op l.reduceLogged.1 r.reduceLogged.1 =
        join op l.reduce r.reduce
      rw [ihLeft, ihRight]

/- The steps of a negation. -/
theorem reduceLogged_neg_snd (t : Tree) :
    (neg t).reduceLogged.2 =
      t.reduceLogged.2 ++ t.reduce.negatedSteps := by
  rw [← t.reduceLogged_fst]
  rfl

/- The steps of an operation. -/
theorem reduceLogged_bin_snd
    (op : Op)
    (l r : Tree) :
    (bin op l r).reduceLogged.2 =
      l.reduceLogged.2 ++ r.reduceLogged.2
        ++ joinSteps op l.reduce r.reduce := by
  rw [← l.reduceLogged_fst, ← r.reduceLogged_fst]
  rfl

/- Negating takes a step only if a sign is dropped. -/
theorem mem_negatedSteps
    {t : Tree}
    {s : Step} :
    s ∈ t.negatedSteps ↔ ∃ u, t = neg u ∧ s = .unnegated u := by
  cases t with
  | neg u =>
      constructor
      · intro h
        exact ⟨u, rfl, List.mem_singleton.mp h⟩
      · rintro ⟨v, hSame, rfl⟩
        cases hSame
        exact List.mem_singleton_self _
  | num | var | bin =>
      constructor
      · intro h
        cases h
      · rintro ⟨v, hSame, _⟩
        cases hSame

/- Joining takes a step only if two integers collapse. -/
theorem mem_joinSteps
    {op : Op}
    {l r : Tree}
    {s : Step} :
    s ∈ joinSteps op l r ↔
      ∃ a b n, l.integer? = some a ∧ r.integer? = some b ∧
        op.exact? a b = some n ∧ s = .collapsed op a b n := by
  unfold joinSteps
  cases hCollapse : collapse? op l r with
  | none =>
      constructor
      · intro h
        cases h
      · rintro ⟨a, b, n, hLeft, hRight, hExact, _⟩
        rw [collapse?_eq_some.mpr ⟨hLeft, hRight, hExact⟩]
          at hCollapse
        cases hCollapse
  | some result =>
      rcases result with ⟨a, b, n⟩
      rcases collapse?_eq_some.mp hCollapse with
        ⟨hLeft, hRight, hExact⟩
      constructor
      · intro h
        exact ⟨a, b, n, hLeft, hRight, hExact,
          List.mem_singleton.mp h⟩
      · rintro ⟨a₁, b₁, n₁, hLeft₁, hRight₁, hExact₁, rfl⟩
        have hSame := collapse?_eq_some.mpr
          ⟨hLeft₁, hRight₁, hExact₁⟩
        rw [hCollapse] at hSame
        cases hSame
        exact List.mem_singleton_self _

/-
  A trace succeeds if the tree, the reduced tree and every
  step can be written out, and these are what it returns.
-/
theorem trace_eq_ok
    {t : Tree}
    {r : Trace} :
    t.trace = .ok r ↔
      (t.Writable ∧ t.reduce.Writable ∧
        ∀ s ∈ t.reduceLogged.2, s.Writable) ∧
      r = ⟨t.reduce, t.reduceLogged.2.map Step.text⟩ := by
  have hTrace : t.trace =
      if t.Writable ∧ t.reduceLogged.1.Writable ∧
          ∀ s ∈ t.reduceLogged.2, s.Writable then
        .ok ⟨t.reduceLogged.1, t.reduceLogged.2.map Step.text⟩
      else .error .number :=
    rfl
  rw [hTrace, ← t.reduceLogged_fst]
  constructor
  · intro h
    split at h
    · next hWritable =>
        cases h
        exact ⟨hWritable, rfl⟩
    · cases h
  · rintro ⟨hWritable, rfl⟩
    exact if_pos hWritable

------------------------------------------------------------
-- Depth
------------------------------------------------------------

/- The tree of an integer has two levels at most. -/
theorem depth_ofInt_le (n : Int) : (ofInt n).depth ≤ 2 := by
  cases n with
  | ofNat n => exact Nat.le_succ 1
  | negSucc n => exact Nat.le_refl 2

/-
  No tree that stands for an integer is less deep than the
  tree of the integer.
-/
theorem depth_ofInt_le_of_integer?
    {t : Tree}
    {n : Int}
    (h : t.integer? = some n) :
    (ofInt n).depth ≤ t.depth := by
  rcases integer?_cases h with ⟨m, rfl, rfl⟩ | ⟨m, rfl, rfl⟩
  · exact Nat.le_refl 1
  · exact depth_ofInt_le _

/- Joining two trees adds a level at most. -/
theorem depth_join_le
    (op : Op)
    (l r : Tree) :
    (join op l r).depth ≤ (bin op l r).depth := by
  rcases join_cases op l r with
    hJoin | ⟨a, b, n, _, _, _, hJoin⟩
  · exact Nat.le_of_eq (congrArg depth hJoin)
  · have hInteger := depth_ofInt_le n
    have hPositive := l.depth_pos
    rw [hJoin, depth]
    omega

/- Negating a tree adds a level at most. -/
theorem depth_negated_le (t : Tree) :
    t.negated.depth ≤ (neg t).depth := by
  rcases negated_cases t with hNegated | ⟨u, rfl, hNegated⟩
  · exact Nat.le_of_eq (congrArg depth hNegated)
  · rw [hNegated, depth, depth]
    omega

/- A reduced tree is no deeper than the tree was. -/
theorem depth_reduce_le (t : Tree) :
    t.reduce.depth ≤ t.depth := by
  induction t with
  | num n => exact Nat.le_refl 1
  | var x => exact Nat.le_refl 1
  | neg t ih =>
      have hNode := t.reduce.depth_negated_le
      rw [depth] at hNode
      rw [reduce, depth]
      omega
  | bin op l r ihLeft ihRight =>
      have hNode := depth_join_le op l.reduce r.reduce
      rw [depth] at hNode
      rw [reduce, depth]
      omega

end Tree

------------------------------------------------------------
-- Steps as Equations
------------------------------------------------------------

namespace Step

/- The tree on the left of the equation. -/
def left : Step → Tree
| collapsed op a b _ => .bin op (.ofInt a) (.ofInt b)
| unnegated t => .neg (.neg t)

/- The tree on the right of the equation. -/
def right : Step → Tree
| collapsed _ _ _ n => .ofInt n
| unnegated t => t

/-
  A step of reducing a tree: an operation has the result it
  is said to have, and the left side takes neither levels
  nor names that the tree does not have.
-/
structure Within
    (s : Step)
    (t : Tree) : Prop where
  exact :
    ∀ op a b n, s = collapsed op a b n →
      op.exact? a b = some n
  depth : s.left.depth ≤ t.depth
  names : s.left.names ⊆ t.names

/- A step within a part of a tree is one within the tree. -/
theorem Within.trans
    {s : Step}
    {t u : Tree}
    (h : s.Within t)
    (hDepth : t.depth ≤ u.depth)
    (hNames : t.names ⊆ u.names) :
    s.Within u where
  exact := h.exact
  depth := Nat.le_trans h.depth hDepth
  names := List.Subset.trans h.names hNames

/- The left side of a step is no less deep than the right. -/
theorem depth_right_le (s : Step) :
    s.right.depth ≤ s.left.depth := by
  cases s with
  | collapsed op a b n =>
      have hInteger := Tree.depth_ofInt_le n
      have hPositive := (Tree.ofInt a).depth_pos
      rw [left, right, Tree.depth]
      omega
  | unnegated t =>
      rw [left, right, Tree.depth, Tree.depth]
      omega

/- The right side of a step has no other names. -/
theorem names_right_subset (s : Step) :
    s.right.names ⊆ s.left.names := by
  cases s with
  | collapsed op a b n =>
      rw [right,
        Tree.names_of_integer? (Tree.integer?_ofInt n)]
      exact List.nil_subset _
  | unnegated t => exact List.Subset.refl _

/- Both sides of a step reduce to the same tree. -/
theorem reduce_left
    {s : Step}
    {t : Tree}
    (h : s.Within t) :
    s.left.reduce = s.right.reduce := by
  cases s with
  | collapsed op a b n =>
      have hLeft := Tree.integer?_ofInt a
      have hRight := Tree.integer?_ofInt b
      have hResult := Tree.integer?_ofInt n
      rw [left, right, Tree.reduce,
        Tree.reduce_of_integer? hLeft,
        Tree.reduce_of_integer? hRight,
        Tree.reduce_of_integer? hResult]
      exact Tree.join_of_integers hLeft hRight
        (h.exact op a b n rfl)
  | unnegated t =>
      exact Tree.negated_negated t.normal_reduce

end Step

namespace Tree

/- A sign is dropped from no more than the tree has. -/
theorem within_of_mem_negatedSteps
    {t : Tree}
    {s : Step}
    (h : s ∈ t.reduce.negatedSteps) :
    s.Within (neg t) := by
  rcases mem_negatedSteps.mp h with ⟨u, hReduce, rfl⟩
  have hDepth := t.depth_reduce_le
  have hNames := t.names_reduce
  rw [hReduce] at hDepth hNames
  constructor
  · intro op a b n hStep
    cases hStep
  · rw [Step.left, depth, depth, depth]
    rw [depth] at hDepth
    omega
  · intro x hx
    show x ∈ t.names
    rw [← hNames]
    exact hx

/- Two integers collapse that the operands reduce to. -/
theorem within_of_mem_joinSteps
    {op : Op}
    {l r : Tree}
    {s : Step}
    (h : s ∈ joinSteps op l.reduce r.reduce) :
    s.Within (bin op l r) := by
  rcases mem_joinSteps.mp h with
    ⟨a, b, n, hLeft, hRight, hExact, rfl⟩
  have hDepth := l.depth_reduce_le
  have hDepth₂ := r.depth_reduce_le
  have hLevels := depth_ofInt_le_of_integer? hLeft
  have hLevels₂ := depth_ofInt_le_of_integer? hRight
  constructor
  · intro op₁ a₁ b₁ n₁ hStep
    cases hStep
    exact hExact
  · rw [Step.left, depth, depth]
    omega
  · rw [Step.left, names, names_of_integer? (integer?_ofInt a),
      names_of_integer? (integer?_ofInt b)]
    exact List.nil_subset _

/- Every step of reducing a tree is one within the tree. -/
theorem within_of_mem_steps
    {t : Tree}
    {s : Step}
    (h : s ∈ t.reduceLogged.2) :
    s.Within t := by
  induction t with
  | num n => cases h
  | var x => cases h
  | neg t ih =>
      rw [reduceLogged_neg_snd] at h
      rcases List.mem_append.mp h with hInner | hLast
      · refine (ih hInner).trans ?_ (List.Subset.refl _)
        exact Nat.le_add_left _ 1
      · exact within_of_mem_negatedSteps hLast
  | bin op l r ihLeft ihRight =>
      rw [reduceLogged_bin_snd, List.mem_append,
        List.mem_append] at h
      rcases h with (hLeft | hRight) | hLast
      · refine (ihLeft hLeft).trans ?_
          (List.subset_append_left _ _)
        rw [depth]
        omega
      · refine (ihRight hRight).trans ?_
          (List.subset_append_right _ _)
        rw [depth]
        omega
      · exact within_of_mem_joinSteps hLast

end Tree

end Termwise
