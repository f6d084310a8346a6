import Termwise.Tree.Depth

/-
  The walk over pending subtrees finds the depth of a tree.

  Key definitions include:
    * `Tree.reach`

  Main declarations:
    * `Tree.deepest_eq`
    * `Tree.levels_eq_depth`
-/

namespace Termwise

namespace Tree

/- Every tree has a level. -/
theorem depth_pos (t : Tree) : 0 < t.depth := by
  cases t <;> simp only [depth] <;> omega

/- The deepest level of pending subtrees. -/
def reach : List (Tree × Nat) → Nat
| [] => 0
| (t, level) :: rest =>
    max (level + t.depth - 1) (reach rest)

/- The walk adds what is pending to what it has met. -/
theorem deepest_eq
    (best : Nat)
    (pending : List (Tree × Nat)) :
    deepest best pending = max best (reach pending) := by
  fun_induction deepest best pending with
  | case1 best => exact (Nat.max_zero best).symm
  | case2 best n level rest ih =>
      rw [ih]
      simp only [reach, depth]
      omega
  | case3 best x level rest ih =>
      rw [ih]
      simp only [reach, depth]
      omega
  | case4 best t level rest ih =>
      have hChild := t.depth_pos
      rw [ih]
      simp only [reach, depth]
      omega
  | case5 best op l r level rest ih =>
      have hPositive := r.depth_pos
      have hLevel : level ≤ level + 1 + r.depth - 1 := by
        omega
      have hNode :
          level + (1 + max l.depth r.depth) - 1 =
            max (level + 1 + r.depth - 1)
              (level + 1 + l.depth - 1) := by
        omega
      rw [ih]
      simp only [reach, depth]
      rw [hNode, Nat.max_assoc, ← Nat.max_assoc level,
        Nat.max_eq_right hLevel, Nat.max_assoc]

/- The number of levels is the depth. -/
theorem levels_eq_depth (t : Tree) :
    t.levels = t.depth := by
  have hPositive := t.depth_pos
  rw [levels, deepest_eq]
  simp only [reach]
  omega

end Tree

end Termwise
