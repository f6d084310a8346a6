import Termwise.Print.Flat
import Termwise.Print.Limit
import Termwise.Tree.Variables

/-
  The parts of a tree are the trees that stand within it, and
  the tree itself.

  Key definitions include:
    * `Tree.parts`

  Main declarations:
    * `Tree.parts_subset`
    * `Tree.numbers_subset`
    * `Tree.not_mem_parts_div`
-/

namespace Termwise

namespace Tree

/- A tree and the trees within it. -/
def parts : Tree → List Tree
| num n => [num n]
| var x => [var x]
| neg t => neg t :: t.parts
| bin op l r => bin op l r :: (l.parts ++ r.parts)

/- A tree is a part of itself. -/
theorem self_mem_parts (t : Tree) : t ∈ t.parts := by
  cases t <;> exact List.mem_cons_self

/- A part of a negation is all of it, or within its operand. -/
theorem mem_parts_neg
    {p t : Tree} :
    p ∈ (neg t).parts ↔ p = neg t ∨ p ∈ t.parts :=
  List.mem_cons

/- A part of an operation is all of it, or within one side. -/
theorem mem_parts_bin
    {op : Op}
    {p l r : Tree} :
    p ∈ (bin op l r).parts ↔
      p = bin op l r ∨ p ∈ l.parts ∨ p ∈ r.parts := by
  rw [parts, List.mem_cons, List.mem_append]

/- Parts of a part are parts of the tree. -/
theorem parts_subset
    {p t : Tree}
    (h : p ∈ t.parts) :
    p.parts ⊆ t.parts := by
  induction t with
  | num n | var x =>
      rw [List.mem_singleton.mp h]
      exact List.Subset.refl _
  | neg t ih =>
      rcases mem_parts_neg.mp h with rfl | hInner
      · exact List.Subset.refl _
      · exact List.subset_cons_of_subset _ (ih hInner)
  | bin op l r ihLeft ihRight =>
      intro q hq
      rcases mem_parts_bin.mp h with rfl | hLeft | hRight
      · exact hq
      · apply mem_parts_bin.mpr
        exact .inr (.inl (ihLeft hLeft hq))
      · apply mem_parts_bin.mpr
        exact .inr (.inr (ihRight hRight hq))

/- The operand of a negation is a part with it. -/
theorem mem_parts_of_neg
    {t u : Tree}
    (h : neg u ∈ t.parts) :
    u ∈ t.parts :=
  parts_subset h (mem_parts_neg.mpr (.inr u.self_mem_parts))

/- The operands of an operation are parts with it. -/
theorem mem_parts_of_bin
    {op : Op}
    {t l r : Tree}
    (h : bin op l r ∈ t.parts) :
    l ∈ t.parts ∧ r ∈ t.parts := by
  constructor
  · apply parts_subset h
    exact mem_parts_bin.mpr (.inr (.inl l.self_mem_parts))
  · apply parts_subset h
    exact mem_parts_bin.mpr (.inr (.inr r.self_mem_parts))

/- The numbers of a part are numbers of the tree. -/
theorem numbers_subset
    {p t : Tree}
    (h : p ∈ t.parts) :
    p.numbers ⊆ t.numbers := by
  induction t with
  | num n | var x =>
      rw [List.mem_singleton.mp h]
      exact List.Subset.refl _
  | neg t ih =>
      rcases mem_parts_neg.mp h with rfl | hInner
      · exact List.Subset.refl _
      · exact ih hInner
  | bin op l r ihLeft ihRight =>
      rcases mem_parts_bin.mp h with rfl | hLeft | hRight
      · exact List.Subset.refl _
      · exact List.subset_append_of_subset_left _
          (ihLeft hLeft)
      · exact List.subset_append_of_subset_right _
          (ihRight hRight)

/- A tree without divisions has none for a part. -/
theorem not_mem_parts_div
    {t : Tree}
    (h : t.DivisionFree)
    (l r : Tree) :
    bin .div l r ∉ t.parts := by
  intro hPart
  induction t with
  | num n | var x => cases List.mem_singleton.mp hPart
  | neg t ih =>
      rcases mem_parts_neg.mp hPart with hSame | hInner
      · cases hSame
      · exact ih h hInner
  | bin op u v ihLeft ihRight =>
      rcases h with ⟨hOther, hLeft, hRight⟩
      rcases mem_parts_bin.mp hPart with hSame | hIn | hIn
      · cases hSame
        exact hOther rfl
      · exact ihLeft hLeft hIn
      · exact ihRight hRight hIn

end Tree

end Termwise
