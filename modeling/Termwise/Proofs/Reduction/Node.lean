import Termwise.Reduce
import Termwise.Tree.Variables

/-
  What a reduction does at one node of a tree.

  Main declarations:
    * `Tree.collapse?_eq_some`
    * `Tree.join_cases`
    * `Tree.negated_cases`
    * `Tree.substitute_of_integer?`
    * `Tree.numbers_of_integer?`
    * `Tree.substitute_none`
-/

namespace Termwise

namespace Tree

/-
  Two trees collapse if they stand for integers and their
  operation has an integer result.
-/
theorem collapse?_eq_some
    {op : Op}
    {l r : Tree}
    {a b n : Int} :
    collapse? op l r = some (a, b, n) ↔
      l.integer? = some a ∧ r.integer? = some b ∧
        op.exact? a b = some n := by
  constructor
  · intro h
    unfold collapse? at h
    split at h
    · next a' b' hLeft hRight =>
        split at h
        · next n' hExact =>
            cases h
            exact ⟨hLeft, hRight, hExact⟩
        · cases h
    · cases h
  · rintro ⟨hLeft, hRight, hExact⟩
    simp only [collapse?, hLeft, hRight, hExact]

/- Integers with an integer result are replaced by it. -/
theorem join_of_integers
    {op : Op}
    {l r : Tree}
    {a b n : Int}
    (hLeft : l.integer? = some a)
    (hRight : r.integer? = some b)
    (hExact : op.exact? a b = some n) :
    join op l r = ofInt n := by
  rw [join, collapse?_eq_some.mpr ⟨hLeft, hRight, hExact⟩]

/-
  Two reduced trees are joined as they are, or they stand
  for integers and are replaced by their integer result.
-/
theorem join_cases
    (op : Op)
    (l r : Tree) :
    join op l r = bin op l r ∨
      ∃ a b n, l.integer? = some a ∧ r.integer? = some b ∧
        op.exact? a b = some n ∧ join op l r = ofInt n := by
  cases hCollapse : collapse? op l r with
  | none =>
      left
      rw [join, hCollapse]
  | some result =>
      rcases result with ⟨a, b, n⟩
      rcases collapse?_eq_some.mp hCollapse with
        ⟨hLeft, hRight, hExact⟩
      right
      exact ⟨a, b, n, hLeft, hRight, hExact,
        join_of_integers hLeft hRight hExact⟩

/- A reduced tree is negated by adding or dropping a sign. -/
theorem negated_cases (t : Tree) :
    t.negated = neg t ∨ ∃ u, t = neg u ∧ t.negated = u := by
  cases t with
  | neg u => exact .inr ⟨u, rfl, rfl⟩
  | num | var | bin => exact .inl rfl

/- A tree that stands for an integer has no variable. -/
theorem substitute_of_integer?
    {t : Tree}
    {n : Int}
    (h : t.integer? = some n)
    (value? : String → Option Int) :
    t.substitute value? = t := by
  rcases integer?_cases h with ⟨m, rfl, _⟩ | ⟨m, rfl, _⟩
  · rfl
  · rfl

/- A tree that stands for an integer has that number. -/
theorem numbers_of_integer?
    {t : Tree}
    {n : Int}
    (h : t.integer? = some n) :
    t.numbers = [n.natAbs] := by
  rcases integer?_cases h with ⟨m, rfl, rfl⟩ | ⟨m, rfl, rfl⟩
  · rfl
  · rw [Int.natAbs_neg]
    rfl

/- Without a value for any variable nothing is replaced. -/
theorem substitute_none (t : Tree) :
    t.substitute (fun _ => none) = t := by
  induction t with
  | num n => rfl
  | var x => rfl
  | neg t ih => rw [substitute, ih]
  | bin op l r ihLeft ihRight =>
      rw [substitute, ihLeft, ihRight]

end Tree

end Termwise
