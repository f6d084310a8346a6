import Termwise.Proofs.Reduction.NormalForm

/-
  Reduction keeps the variables of a tree, and it may be done
  before they are replaced by integers as well as after.

  Main declarations:
    * `Tree.names_reduce`
    * `Tree.negated_negated`
    * `Tree.reduce_substitute_join`
    * `Tree.reduce_substitute_negated`
    * `Tree.reduce_substitute_reduce`
-/

namespace Termwise

namespace Tree

------------------------------------------------------------
-- Variables
------------------------------------------------------------

/- A tree that stands for an integer has no variable. -/
theorem names_of_integer?
    {t : Tree}
    {n : Int}
    (h : t.integer? = some n) :
    t.names = [] := by
  rcases integer?_cases h with ⟨m, rfl, _⟩ | ⟨m, rfl, _⟩
  · rfl
  · rfl

/- Joining two trees drops no variable of theirs. -/
theorem names_join
    (op : Op)
    (l r : Tree) :
    (join op l r).names = l.names ++ r.names := by
  rcases join_cases op l r with
    hJoin | ⟨a, b, n, hLeft, hRight, _, hJoin⟩
  · rw [hJoin]
    rfl
  · rw [hJoin, names_of_integer? (integer?_ofInt n),
      names_of_integer? hLeft, names_of_integer? hRight]
    rfl

/- Negating a tree keeps its variables. -/
theorem names_negated (t : Tree) :
    t.negated.names = t.names := by
  rcases negated_cases t with hNegated | ⟨u, rfl, hNegated⟩
  · rw [hNegated]
    rfl
  · rw [hNegated]
    rfl

/- A reduced tree has its variables where they were. -/
theorem names_reduce (t : Tree) :
    t.reduce.names = t.names := by
  induction t with
  | num n => rfl
  | var x => rfl
  | neg t ih =>
      rw [reduce, names_negated, ih]
      rfl
  | bin op l r ihLeft ihRight =>
      rw [reduce, names_join, ihLeft, ihRight]
      rfl

------------------------------------------------------------
-- Substitution
------------------------------------------------------------

/- A normal tree that is negated twice is as it was. -/
theorem negated_negated
    {t : Tree}
    (h : t.Normal) :
    t.negated.negated = t := by
  cases t with
  | neg u => exact negated_of_not_isNegation h.2
  | num | var | bin => rfl

/-
  Variables of a negation may be replaced before or after it
  is made.  If a sign was dropped, the signs that the values
  bring are dropped in pairs as well.
-/
theorem reduce_substitute_negated
    (t : Tree)
    (value? : String → Option Int) :
    (t.negated.substitute value?).reduce =
      (t.substitute value?).reduce.negated := by
  rcases negated_cases t with hNegated | ⟨u, rfl, hNegated⟩
  · rw [hNegated]
    rfl
  · rw [hNegated, substitute, reduce]
    exact (negated_negated (normal_reduce _)).symm

/-
  Variables of an operation may be replaced before or after
  it is made.  If it was collapsed, there are none.
-/
theorem reduce_substitute_join
    (op : Op)
    (l r : Tree)
    (value? : String → Option Int) :
    ((join op l r).substitute value?).reduce =
      join op (l.substitute value?).reduce
        (r.substitute value?).reduce := by
  rcases join_cases op l r with
    hJoin | ⟨a, b, n, hLeft, hRight, _, hJoin⟩
  · rw [hJoin]
    rfl
  · have hResult := integer?_ofInt n
    rw [hJoin, substitute_of_integer? hResult,
      substitute_of_integer? hLeft,
      substitute_of_integer? hRight,
      reduce_of_integer? hResult, reduce_of_integer? hLeft,
      reduce_of_integer? hRight, hJoin]

/-
  A tree may be reduced before some of its variables are
  replaced by integers: reduced again it is the same tree as
  without that, whatever the integers.
-/
theorem reduce_substitute_reduce
    (t : Tree)
    (value? : String → Option Int) :
    (t.reduce.substitute value?).reduce =
      (t.substitute value?).reduce := by
  induction t with
  | num n => rfl
  | var x => rfl
  | neg t ih =>
      rw [reduce, reduce_substitute_negated, ih]
      rfl
  | bin op l r ihLeft ihRight =>
      rw [reduce, reduce_substitute_join, ihLeft, ihRight]
      rfl

end Tree

end Termwise
