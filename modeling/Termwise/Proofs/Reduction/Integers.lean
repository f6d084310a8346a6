import Termwise.Proofs.Reduction.Meaning
import Termwise.Proofs.Reduction.Substitution
import Termwise.Proofs.Tree.Parts

/-
  Which trees are reduced to integers: those without
  variables in which every division is one of integers and
  leaves no remainder.  The integer is the value of the tree.

  Key definitions include:
    * `Tree.DividesExactly`

  Main declarations:
    * `Tree.integer?_negated`
    * `Tree.integer?_join`
    * `Tree.reduce_integer_iff`
-/

namespace Termwise

namespace Tree

------------------------------------------------------------
-- Nodes
------------------------------------------------------------

/-
  A normal tree stands for an integer if its negation does.
  Dropping a sign cannot bring up an integer: under a single
  sign it is there already, and a normal tree has no second.
-/
theorem integer?_negated
    {t : Tree}
    (h : t.Normal) :
    t.negated.integer? = t.integer?.map fun n => -n := by
  cases t with
  | num n => rfl
  | var x => rfl
  | bin op l r => rfl
  | neg u =>
      cases u with
      | num n =>
          show some (n : Int) = some (- -(n : Int))
          rw [Int.neg_neg]
      | var x => rfl
      | bin op l r => rfl
      | neg v => exact absurd trivial h.2

/-
  Two trees are joined to an integer if they stand for
  integers and their operation has an integer result.
-/
theorem integer?_join
    (op : Op)
    (l r : Tree) :
    (join op l r).integer? =
      l.integer?.bind fun a =>
        r.integer?.bind fun b => op.exact? a b := by
  unfold join collapse?
  cases l.integer? with
  | none => rfl
  | some a =>
      cases r.integer? with
      | none => rfl
      | some b =>
          cases hExact : op.exact? a b with
          | none =>
              simp only [hExact]
              exact hExact.symm
          | some n =>
              simp only [hExact, integer?_ofInt]
              exact hExact.symm

/- What a negation is reduced to, if it is an integer. -/
theorem integer?_reduce_neg
    {t : Tree}
    {n : Int} :
    (neg t).reduce.integer? = some n ↔
      ∃ a, t.reduce.integer? = some a ∧ -a = n := by
  rw [reduce, integer?_negated t.normal_reduce,
    Option.map_eq_some_iff]

/- What an operation is reduced to, if it is an integer. -/
theorem integer?_reduce_bin
    {op : Op}
    {l r : Tree}
    {n : Int} :
    (bin op l r).reduce.integer? = some n ↔
      ∃ a, l.reduce.integer? = some a ∧
        ∃ b, r.reduce.integer? = some b ∧
          op.exact? a b = some n := by
  rw [reduce, integer?_join, Option.bind_eq_some_iff]
  simp only [Option.bind_eq_some_iff]

------------------------------------------------------------
-- Trees
------------------------------------------------------------

/-
  Every division within a tree is one of integers: both of
  its operands have an integer value, and that of the divisor
  is not zero and divides that of the dividend.
-/
def DividesExactly (t : Tree) : Prop :=
  ∀ l r, bin .div l r ∈ t.parts →
    ∃ a b : Int, l.outcome = .value a ∧
      r.outcome = .value b ∧ b ≠ 0 ∧ b ∣ a

/- What holds of the divisions of a tree holds of a part. -/
theorem DividesExactly.part
    {p t : Tree}
    (h : t.DividesExactly)
    (hPart : p ∈ t.parts) :
    p.DividesExactly := by
  intro l r hDivision
  exact h l r (parts_subset hPart hDivision)

/- A tree is reduced to no other integer than its value. -/
theorem outcome_of_integer?_reduce
    {t : Tree}
    {n : Int}
    (h : t.reduce.integer? = some n) :
    t.outcome = .value n := by
  rw [← t.outcome_reduce]
  exact outcome_of_integer? h

/- A tree that is reduced to an integer has no variable. -/
theorem names_of_integer?_reduce
    {t : Tree}
    {n : Int}
    (h : t.reduce.integer? = some n) :
    t.names = [] := by
  rw [← t.names_reduce]
  exact names_of_integer? h

/-
  If a tree is reduced to an integer then no division within
  it leaves a remainder, since an operation is collapsed only
  after both of its operands.
-/
theorem dividesExactly_of_integer?_reduce
    {t : Tree}
    {n : Int}
    (h : t.reduce.integer? = some n) :
    t.DividesExactly := by
  induction t generalizing n with
  | num m => intro l r hPart; cases List.mem_singleton.mp hPart
  | var x => intro l r hPart; cases List.mem_singleton.mp hPart
  | neg t ih =>
      rcases integer?_reduce_neg.mp h with ⟨a, hInner, _⟩
      intro l r hPart
      rcases mem_parts_neg.mp hPart with hSame | hIn
      · cases hSame
      · exact ih hInner l r hIn
  | bin op u v ihLeft ihRight =>
      rcases integer?_reduce_bin.mp h with
        ⟨a, hLeft, b, hRight, hExact⟩
      intro l r hPart
      rcases mem_parts_bin.mp hPart with hSame | hIn | hIn
      · cases hSame
        have hDivides : b ≠ 0 ∧ b ∣ a :=
          (Op.exact_iff .div a b).mpr ⟨n, hExact⟩
        exact ⟨a, b, outcome_of_integer?_reduce hLeft,
          outcome_of_integer?_reduce hRight, hDivides⟩
      · exact ihLeft hLeft l r hIn
      · exact ihRight hRight l r hIn

/-
  Without variables, and if no division within it leaves a
  remainder, a tree is reduced to an integer.
-/
theorem exists_integer?_reduce
    {t : Tree}
    (hNames : t.names = [])
    (hDivides : t.DividesExactly) :
    ∃ n, t.reduce.integer? = some n := by
  induction t with
  | num n => exact ⟨n, rfl⟩
  | var x => cases hNames
  | neg t ih =>
      have hOperand := mem_parts_of_neg (neg t).self_mem_parts
      rcases ih hNames (hDivides.part hOperand) with ⟨a, hInner⟩
      exact ⟨-a, integer?_reduce_neg.mpr ⟨a, hInner, rfl⟩⟩
  | bin op l r ihLeft ihRight =>
      rcases List.append_eq_nil_iff.mp hNames with
        ⟨hNames₁, hNames₂⟩
      rcases mem_parts_of_bin (bin op l r).self_mem_parts with
        ⟨hPart₁, hPart₂⟩
      rcases ihLeft hNames₁ (hDivides.part hPart₁) with
        ⟨a, hLeft⟩
      rcases ihRight hNames₂ (hDivides.part hPart₂) with
        ⟨b, hRight⟩
      have hExact : op.Exact a b := by
        cases op with
        | add | sub | mul => trivial
        | div =>
            rcases hDivides l r (self_mem_parts _) with
              ⟨c, d, hDividend, hDivisor, hExact⟩
            rw [outcome_of_integer?_reduce hLeft] at hDividend
            rw [outcome_of_integer?_reduce hRight] at hDivisor
            have hSame := Outcome.value.inj hDividend
            have hSame₂ := Outcome.value.inj hDivisor
            rw [Int.cast_inj] at hSame hSame₂
            rw [hSame, hSame₂]
            exact hExact
      rcases (op.exact_iff a b).mp hExact with ⟨n, hResult⟩
      exact ⟨n, integer?_reduce_bin.mpr
        ⟨a, hLeft, b, hRight, hResult⟩⟩

/-
  A tree is reduced to an integer just if it has no variable
  and every division within it is one of integers that leaves
  no remainder.  The integer is the value of the tree.  So a
  tree without variables and without divisions is always
  reduced to one.
-/
theorem reduce_integer_iff (t : Tree) :
    (t.reduce.integer?.isSome ↔
      t.names = [] ∧ t.DividesExactly) ∧
    (∀ n : Int,
      t.reduce.integer? = some n ↔
        t.names = [] ∧ t.DividesExactly ∧
          t.outcome = .value n) ∧
    (t.names = [] → t.DivisionFree →
      t.reduce.integer?.isSome) := by
  have hIff :
      t.reduce.integer?.isSome ↔
        t.names = [] ∧ t.DividesExactly := by
    rw [Option.isSome_iff_exists]
    constructor
    · rintro ⟨n, h⟩
      exact ⟨names_of_integer?_reduce h,
        dividesExactly_of_integer?_reduce h⟩
    · rintro ⟨hNames, hDivides⟩
      exact exists_integer?_reduce hNames hDivides
  refine ⟨hIff, ?_, ?_⟩
  · intro n
    constructor
    · intro h
      exact ⟨names_of_integer?_reduce h,
        dividesExactly_of_integer?_reduce h,
        outcome_of_integer?_reduce h⟩
    · rintro ⟨hNames, hDivides, hValue⟩
      rcases exists_integer?_reduce hNames hDivides with
        ⟨m, hReduce⟩
      rw [outcome_of_integer?_reduce hReduce] at hValue
      have hSame := Outcome.value.inj hValue
      rw [Int.cast_inj] at hSame
      rw [hReduce, hSame]
  · intro hNames hFree
    apply hIff.mpr
    refine ⟨hNames, ?_⟩
    intro l r hPart
    exact absurd hPart (not_mem_parts_div hFree l r)

/-
  Twelve divided by minus four, times five, is reduced to an
  integer.  Four thirds, times three, is not, though its
  value is one.  A difference of integers always is.
-/
theorem reduce_integer_quotients :
    let t := bin .mul
      (bin .div (num 12) (neg (num 4))) (num 5)
    let u := bin .mul (bin .div (num 4) (num 3)) (num 3)
    let v := neg (neg (bin .sub (num 2) (num 5)))
    (t.reduce.integer? = some (-15) ∧ t.DividesExactly ∧
      t.outcome = .value ((-15 : Int) : Rat)) ∧
    (u.names = [] ∧ u.outcome = .value 4 ∧
      u.reduce.integer?.isSome = false ∧
      ¬ u.DividesExactly) ∧
    (v.names = [] ∧ v.DivisionFree ∧
      v.reduce.integer?.isSome) := by
  intro t u v
  have hInteger : t.reduce.integer? = some (-15) := by decide
  have hExact :=
    ((reduce_integer_iff t).2.1 (-15)).mp hInteger
  have hNone : u.reduce.integer?.isSome = false := by decide
  have hNames : u.names = [] := rfl
  have hNames₂ : v.names = [] := rfl
  have hFree : v.DivisionFree :=
    ⟨by decide, trivial, trivial⟩
  refine ⟨⟨hInteger, hExact.2⟩,
    ⟨hNames, by decide +kernel, hNone, ?_⟩,
    hNames₂, hFree, (reduce_integer_iff v).2.2 hNames₂ hFree⟩
  intro hDivides
  have hSome := (reduce_integer_iff u).1.mpr
    ⟨hNames, hDivides⟩
  rw [hNone] at hSome
  cases hSome

end Tree

end Termwise
