import Termwise.Normal
import Termwise.Proofs.Reduction.Node

/-
  Reduction leads to normal forms, and normal forms are just
  the trees that reduction leaves alone.

  Main declarations:
    * `Op.exact_iff`
    * `Tree.join_of_collapses`
    * `Tree.join_of_not_collapses`
    * `Tree.normal_reduce`
    * `Tree.reduce_of_normal`
    * `Tree.reduce_normalizes`
-/

namespace Termwise

/- An operation is exact if it has an integer result. -/
theorem Op.exact_iff
    (op : Op)
    (a b : Int) :
    op.Exact a b ↔ ∃ n, op.exact? a b = some n := by
  cases op with
  | add | sub | mul =>
      exact ⟨fun _ => ⟨_, rfl⟩, fun _ => trivial⟩
  | div =>
      have hDivides : b ∣ a ↔ a % b = 0 :=
        Int.dvd_iff_emod_eq_zero
      rw [Op.Exact, Op.exact?, hDivides]
      by_cases hExact : b ≠ 0 ∧ a % b = 0
      · rw [if_pos hExact]
        exact ⟨fun _ => ⟨_, rfl⟩, fun _ => hExact⟩
      · rw [if_neg hExact]
        refine ⟨fun h => absurd h hExact, ?_⟩
        rintro ⟨n, hResult⟩
        cases hResult

namespace Tree

------------------------------------------------------------
-- Nodes
------------------------------------------------------------

/- Two trees that collapse are joined to an integer. -/
theorem join_of_collapses
    {op : Op}
    {l r : Tree}
    (h : Collapses op l r) :
    ∃ n, join op l r = ofInt n := by
  rcases h with ⟨a, hLeft, b, hRight, hExact⟩
  rcases (op.exact_iff a b).mp hExact with ⟨n, hResult⟩
  exact ⟨n, join_of_integers hLeft hRight hResult⟩

/- Two trees that do not collapse are joined as they are. -/
theorem join_of_not_collapses
    {op : Op}
    {l r : Tree}
    (h : ¬ Collapses op l r) :
    join op l r = bin op l r := by
  rcases join_cases op l r with
    hJoin | ⟨a, b, n, hLeft, hRight, hExact, _⟩
  · exact hJoin
  · have hCollapses : Collapses op l r :=
      ⟨a, hLeft, b, hRight,
        (op.exact_iff a b).mpr ⟨n, hExact⟩⟩
    exact absurd hCollapses h

/- A tree that is no negation is negated by a sign. -/
theorem negated_of_not_isNegation
    {t : Tree}
    (h : ¬ t.IsNegation) :
    t.negated = neg t := by
  cases t with
  | neg u => exact absurd trivial h
  | num | var | bin => rfl

/- The tree of an integer is normal. -/
theorem normal_ofInt (n : Int) : (ofInt n).Normal := by
  cases n with
  | ofNat n => trivial
  | negSucc n => exact ⟨trivial, fun h => h⟩

/- Joining normal trees gives a normal tree. -/
theorem normal_join
    (op : Op)
    {l r : Tree}
    (hLeft : l.Normal)
    (hRight : r.Normal) :
    (join op l r).Normal := by
  by_cases hCollapses : Collapses op l r
  · rcases join_of_collapses hCollapses with ⟨n, hJoin⟩
    rw [hJoin]
    exact normal_ofInt n
  · rw [join_of_not_collapses hCollapses]
    exact ⟨hLeft, hRight, hCollapses⟩

/-
  Negating a normal tree gives a normal tree.  What stands
  under the sign of a normal negation is no negation, so it
  may take the place of the negation.
-/
theorem normal_negated
    {t : Tree}
    (h : t.Normal) :
    t.negated.Normal := by
  by_cases hNegation : t.IsNegation
  · cases t with
    | neg u => exact h.1
    | num | var | bin => exact hNegation.elim
  · rw [negated_of_not_isNegation hNegation]
    exact ⟨h, hNegation⟩

------------------------------------------------------------
-- Trees
------------------------------------------------------------

/- Whatever is reduced becomes normal. -/
theorem normal_reduce (t : Tree) : t.reduce.Normal := by
  induction t with
  | num n => trivial
  | var x => trivial
  | neg t ih => exact normal_negated ih
  | bin op l r ihLeft ihRight =>
      exact normal_join op ihLeft ihRight

/- A normal tree is left as it is. -/
theorem reduce_of_normal
    {t : Tree}
    (h : t.Normal) :
    t.reduce = t := by
  induction t with
  | num n => rfl
  | var x => rfl
  | neg t ih =>
      rcases h with ⟨hInner, hSingle⟩
      rw [reduce, ih hInner, negated_of_not_isNegation hSingle]
  | bin op l r ihLeft ihRight =>
      rcases h with ⟨hLeft, hRight, hStuck⟩
      rw [reduce, ihLeft hLeft, ihRight hRight,
        join_of_not_collapses hStuck]

/- A tree that stands for an integer is left as it is. -/
theorem reduce_of_integer?
    {t : Tree}
    {n : Int}
    (h : t.integer? = some n) :
    t.reduce = t := by
  rcases integer?_cases h with ⟨m, rfl, _⟩ | ⟨m, rfl, _⟩
  · rfl
  · rfl

/-
  A reduced tree is normal.  The normal trees are the ones
  that reduction leaves alone, so a second reduction changes
  nothing, and they are all the trees that it leads to.
-/
theorem reduce_normalizes (t : Tree) :
    t.reduce.Normal ∧
      (t.reduce = t ↔ t.Normal) ∧
      t.reduce.reduce = t.reduce ∧
      (t.Normal ↔ ∃ u : Tree, u.reduce = t) := by
  have hNormal := t.normal_reduce
  refine ⟨hNormal, ⟨?_, reduce_of_normal⟩,
    reduce_of_normal hNormal, ⟨?_, ?_⟩⟩
  · intro hFixed
    rw [hFixed] at hNormal
    exact hNormal
  · intro h
    exact ⟨t, reduce_of_normal h⟩
  · rintro ⟨u, rfl⟩
    exact u.normal_reduce

/-
  The negation of zero is normal, though no integer has it
  for its tree.
-/
example : (neg (num 0)).Normal := by decide

end Tree

end Termwise
