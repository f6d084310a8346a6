import Mathlib.Data.List.Sort
import Mathlib.Data.String.Basic
import Termwise.Tree.Variables

/-
  The variables of trees, as a list, are what they are as a
  set, and the list is strictly ascending.

  Main declarations:
    * `mem_insertName`
    * `insertName_ascending`
    * `mem_variablesOf`
    * `variablesOf_ascending`
    * `variablesOf_eq`
-/

namespace Termwise

------------------------------------------------------------
-- Insertion
------------------------------------------------------------

/- Inserting a name adds that name and no other. -/
theorem mem_insertName
    {x y : String}
    {names : List String} :
    y ∈ insertName x names ↔ y = x ∨ y ∈ names := by
  induction names with
  | nil => simp [insertName]
  | cons z names ih =>
      rw [insertName]
      by_cases hLess : x < z
      · rw [if_pos hLess, List.mem_cons]
      · rw [if_neg hLess]
        by_cases hSame : x = z
        · rw [if_pos hSame, hSame, List.mem_cons]
          tauto
        · rw [if_neg hSame, List.mem_cons, List.mem_cons, ih]
          tauto

/- Inserting a name keeps names strictly ascending. -/
theorem insertName_ascending
    (x : String)
    {names : List String}
    (h : names.Pairwise (· < ·)) :
    (insertName x names).Pairwise (· < ·) := by
  induction names with
  | nil => exact List.pairwise_singleton _ x
  | cons z names ih =>
      rcases List.pairwise_cons.mp h with ⟨hFirst, hRest⟩
      rw [insertName]
      by_cases hLess : x < z
      · rw [if_pos hLess]
        refine List.pairwise_cons.mpr ⟨?_, h⟩
        intro y hMem
        rcases List.mem_cons.mp hMem with rfl | hMem
        · exact hLess
        · exact lt_trans hLess (hFirst y hMem)
      · rw [if_neg hLess]
        by_cases hSame : x = z
        · rw [if_pos hSame]
          exact h
        · rw [if_neg hSame]
          refine List.pairwise_cons.mpr ⟨?_, ih hRest⟩
          intro y hMem
          rcases mem_insertName.mp hMem with rfl | hMem
          · exact lt_of_le_of_ne (not_lt.mp hLess)
              (Ne.symm hSame)
          · exact hFirst y hMem

------------------------------------------------------------
-- Variables
------------------------------------------------------------

/- The variables of two trees are those of either. -/
theorem mem_variablesOf
    {x : String}
    {t u : Tree} :
    x ∈ variablesOf [t, u] ↔ x ∈ t.names ∨ x ∈ u.names := by
  have hFold :
      ∀ names : List String,
        x ∈ names.foldr insertName [] ↔ x ∈ names := by
    intro names
    induction names with
    | nil => rfl
    | cons y names ih =>
        rw [List.foldr_cons, mem_insertName, ih,
          List.mem_cons]
  rw [variablesOf, hFold]
  simp

/- The variables of trees are listed in ascending order. -/
theorem variablesOf_ascending (ts : List Tree) :
    (variablesOf ts).Pairwise (· < ·) := by
  rw [variablesOf]
  induction ts.flatMap Tree.names with
  | nil => exact List.Pairwise.nil
  | cons x names ih => exact insertName_ascending x ih

/- There is one ascending list of the variables of two trees. -/
theorem variablesOf_eq
    {t u : Tree}
    {names : List String}
    (hAscending : names.Pairwise (· < ·))
    (hMem :
      ∀ x, x ∈ names ↔ x ∈ t.names ∨ x ∈ u.names) :
    variablesOf [t, u] = names := by
  refine (variablesOf_ascending _).eq_of_mem_iff hAscending ?_
  intro x
  rw [mem_variablesOf, hMem]

end Termwise
