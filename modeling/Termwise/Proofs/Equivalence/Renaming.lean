import Mathlib.Order.Monotone.Basic
import Termwise.Proofs.Equivalence.Verdict

/-
  Of the names of variables an equivalence check sees their
  order only.  A renaming that keeps the order of the
  variables of both trees renames the report, and changes
  nothing else of it.

  Key definitions include:
    * `Tree.rename`
    * `Assignment.rename`
    * `Report.rename`

  Main declarations:
    * `Tree.names_rename`
    * `variablesOf_rename`
    * `Assignment.value?_rename`
    * `sampled_rename`
    * `Tree.substitute_rename`
    * `FirstRefuted.rename`
    * `check_rename`
-/

namespace Termwise

variable {r : String → String}

------------------------------------------------------------
-- Names
------------------------------------------------------------

namespace Tree

/- A tree with its variables renamed. -/
def rename (r : String → String) : Tree → Tree
| num n => num n
| var x => var (r x)
| neg t => neg (t.rename r)
| bin op l u => bin op (l.rename r) (u.rename r)

/- Names of a renamed tree are renamed where they stand. -/
theorem names_rename (t : Tree) :
    (t.rename r).names = t.names.map r := by
  induction t with
  | num n => rfl
  | var x => rfl
  | neg t ih => exact ih
  | bin op l u ihLeft ihRight =>
      rw [rename, names, names, ihLeft, ihRight,
        List.map_append]

end Tree

/- If order is kept, ascending variables stay ascending. -/
theorem variablesOf_rename
    {t u : Tree}
    (hOrder :
      StrictMonoOn r {x | x ∈ t.names ∨ x ∈ u.names}) :
    variablesOf [t.rename r, u.rename r] =
      (variablesOf [t, u]).map r := by
  refine variablesOf_eq ?_ ?_
  · rw [List.pairwise_map]
    refine (variablesOf_ascending [t, u]).imp_of_mem ?_
    intro x y hx hy hLess
    exact hOrder (mem_variablesOf.mp hx)
      (mem_variablesOf.mp hy) hLess
  · intro y
    simp only [Tree.names_rename, List.mem_map,
      mem_variablesOf, or_and_right, exists_or]

------------------------------------------------------------
-- Assignments
------------------------------------------------------------

namespace Assignment

/- An assignment to renamed variables. -/
def rename
    (r : String → String)
    (a : Assignment) : Assignment :=
  a.map fun f => (r f.1, f.2)

/-
  A renamed variable has the value of the variable, if no
  other one is given its new name.
-/
theorem value?_rename
    {names : Set String}
    (hInjective : Set.InjOn r names)
    {a : Assignment}
    (hKeys : ∀ y ∈ a.map Prod.fst, y ∈ names)
    {x : String}
    (hMem : x ∈ names) :
    (a.rename r).value? (r x) = a.value? x := by
  -- The assignment gets shorter, but not the set of names
  -- on which the renaming is injective.
  induction a with
  | nil => rfl
  | cons f a ih =>
      rcases f with ⟨y, n⟩
      rw [List.map_cons, List.forall_mem_cons] at hKeys
      have hSame : (r x == r y) = (x == y) := by
        rw [Bool.eq_iff_iff, beq_iff_eq, beq_iff_eq]
        exact hInjective.eq_iff hMem hKeys.1
      rw [value?, rename, List.map_cons, List.lookup_cons,
        hSame, value?, List.lookup_cons]
      cases x == y with
      | true => rfl
      | false => exact ih hKeys.2

end Assignment

/- The same integers are drawn for the renamed variables. -/
theorem sampled_rename
    (names : List String)
    (d : Nat → Int)
    (i : Nat) :
    sampled (names.map r) d i =
      (sampled names d i).rename r := by
  rw [sampled, sampled, Assignment.rename, List.length_map]
  apply List.ext_getElem
  · simp
  · intro j hj hj'
    simp

------------------------------------------------------------
-- Trials
------------------------------------------------------------

/-
  With a value for each of its variables a renamed tree
  becomes the tree that it is without the renaming.
-/
theorem Tree.substitute_rename
    {value? value?' : String → Option Int}
    {t : Tree}
    (hBound : ∀ x ∈ t.names, (value? x).isSome)
    (hSame : ∀ x ∈ t.names, value?' (r x) = value? x) :
    (t.rename r).substitute value?' =
      t.substitute value? := by
  induction t with
  | num n => rfl
  | var x =>
      have hMem : x ∈ (Tree.var x).names :=
        List.mem_singleton_self x
      rcases Option.isSome_iff_exists.mp (hBound x hMem) with
        ⟨n, hValue⟩
      have hOther := hSame x hMem
      rw [hValue] at hOther
      rw [rename, substitute, substitute, hOther, hValue]
  | neg t ih =>
      rw [rename, substitute, substitute, ih hBound hSame]
  | bin op l u ihLeft ihRight =>
      have hLeft (x : String) (hMem : x ∈ l.names) :
          x ∈ (bin op l u).names :=
        List.mem_append_left _ hMem
      have hRight (x : String) (hMem : x ∈ u.names) :
          x ∈ (bin op l u).names :=
        List.mem_append_right _ hMem
      rw [rename, substitute, substitute,
        ihLeft (fun x hMem => hBound x (hLeft x hMem))
          (fun x hMem => hSame x (hLeft x hMem)),
        ihRight (fun x hMem => hBound x (hRight x hMem))
          (fun x hMem => hSame x (hRight x hMem))]

section Trials

variable {t u : Tree}

variable
  (hOrder : StrictMonoOn r {x | x ∈ t.names ∨ x ∈ u.names})

include hOrder

/-
  Both trees become what they are without the renaming, if
  the values are those of their variables.
-/
theorem substitute_sampled_rename
    (d : Nat → Int)
    (i : Nat)
    {v : Tree}
    (hSide : v = t ∨ v = u) :
    (v.rename r).substitute
        (sampled ((variablesOf [t, u]).map r) d i).value? =
      v.substitute
        (sampled (variablesOf [t, u]) d i).value? := by
  have hNames (x : String) (hMem : x ∈ v.names) :
      x ∈ t.names ∨ x ∈ u.names := by
    rcases hSide with rfl | rfl
    · exact .inl hMem
    · exact .inr hMem
  have hKeys := sampled_keys (variablesOf [t, u]) d i
  rw [sampled_rename]
  refine Tree.substitute_rename ?_ ?_
  · intro x hMem
    refine Assignment.isSome_value? ?_
    rw [hKeys]
    exact mem_variablesOf.mpr (hNames x hMem)
  · intro x hMem
    refine Assignment.value?_rename hOrder.injOn ?_
      (hNames x hMem)
    intro y hKey
    rw [hKeys] at hKey
    exact mem_variablesOf.mp hKey

/- A trial is undefined under either kind of names. -/
theorem undefined_rename
    (d : Nat → Int)
    (i : Nat) :
    Undefined (sampled ((variablesOf [t, u]).map r) d i)
        (t.rename r) (u.rename r) ↔
      Undefined (sampled (variablesOf [t, u]) d i) t u := by
  rw [Undefined, Undefined,
    substitute_sampled_rename hOrder d i (.inl rfl),
    substitute_sampled_rename hOrder d i (.inr rfl)]

/- As many trials are undefined under either. -/
theorem undefinedBefore_rename
    (d : Nat → Int)
    (i : Nat) :
    undefinedBefore ((variablesOf [t, u]).map r) d
        (t.rename r) (u.rename r) i =
      undefinedBefore (variablesOf [t, u]) d t u i := by
  simp only [undefinedBefore, undefined_rename hOrder]

/- A trial refutes under either, with the same values. -/
theorem refutes_rename
    {tolerance : Rat}
    {d : Nat → Int}
    {i : Nat}
    {p q : Rat} :
    Refutes tolerance
        (sampled ((variablesOf [t, u]).map r) d i)
        (t.rename r) (u.rename r) p q ↔
      Refutes tolerance (sampled (variablesOf [t, u]) d i)
        t u p q := by
  have hLeft :=
    substitute_sampled_rename hOrder d i (.inl rfl)
  have hRight :=
    substitute_sampled_rename hOrder d i (.inr rfl)
  constructor
  · rintro ⟨hValue, hOther, hApart⟩
    rw [hLeft] at hValue
    rw [hRight] at hOther
    exact ⟨hValue, hOther, hApart⟩
  · rintro ⟨hValue, hOther, hApart⟩
    rw [← hLeft] at hValue
    rw [← hRight] at hOther
    exact ⟨hValue, hOther, hApart⟩

/- So the first trial to refute is the same under both. -/
theorem FirstRefuted.rename
    {tolerance : Rat}
    {d : Nat → Int}
    {i : Nat}
    {p q : Rat}
    (h :
      FirstRefuted tolerance (variablesOf [t, u]) d t u
        i p q) :
    FirstRefuted tolerance ((variablesOf [t, u]).map r) d
      (t.rename r) (u.rename r) i p q := by
  refine ⟨(refutes_rename hOrder).mpr h.refutes, ?_⟩
  intro j hBefore p' q' hEarlier
  exact h.first j hBefore p' q'
    ((refutes_rename hOrder).mp hEarlier)

end Trials

------------------------------------------------------------
-- Checks
------------------------------------------------------------

/- A report with its variables renamed. -/
def Report.rename
    (r : String → String)
    (report : Report) : Report :=
  { report with
    names := report.names.map r
    counterexample :=
      report.counterexample.map fun c =>
        { c with assignment := c.assignment.rename r } }

/-
  A renaming that keeps the order of the variables, and so
  gives no two of them one name, has no effect on a check
  but on the names in its report.  The same draws are made
  and leave the source in the same state.
-/
theorem check_rename
    {σ : Type}
    [Source σ]
    {cfg : Config}
    (hFinite : cfg.tolerance.isFinite = true)
    {t u : Tree}
    {r : String → String}
    (hOrder :
      StrictMonoOn r {x | x ∈ t.names ∨ x ∈ u.names})
    (s : σ) :
    ∃ report source,
      check cfg t u (Recorded.start s) =
          (.ok report, source) ∧
        check cfg (t.rename r) (u.rename r)
            (Recorded.start s) =
          (.ok (report.rename r), source) := by
  rcases Double.exists_toRat? hFinite with
    ⟨tolerance, hTolerance⟩
  have hNames := variablesOf_rename hOrder
  rcases firstRefuted_or_passed tolerance
      (variablesOf [t, u])
      (Source.stream cfg.low cfg.high (Recorded.start s))
      t u cfg.trials with
    ⟨i, p, q, hBound, hFirst⟩ | hPassed
  · refine ⟨_, _, check_refuted hTolerance rfl hBound hFirst,
      ?_⟩
    have hOther := hFirst.rename hOrder
    rw [← hNames] at hOther
    rw [check_refuted hTolerance rfl hBound hOther, hNames,
      undefinedBefore_rename hOrder, sampled_rename,
      List.length_map]
    rfl
  · refine ⟨_, _, check_agreed hTolerance rfl hPassed, ?_⟩
    rw [check_agreed hTolerance rfl, hNames,
      undefinedBefore_rename hOrder, List.length_map]
    · rfl
    · intro i hBound p q hRefutes
      rw [hNames] at hRefutes
      exact hPassed i hBound p q
        ((refutes_rename hOrder).mp hRefutes)

/-
  What is reported of `1 / x` and `y` is reported of `1 / a`
  and `bb`, for `a` comes before `bb` as `x` does before `y`.
-/
theorem check_rename_inverse :
    let t := Tree.bin .div (.num 1) (.var "x")
    let u := Tree.var "y"
    let r (x : String) := if x = "x" then "a" else "bb"
    let s := Recorded.start (Samples.ofList [0, 1, 2, 3])
    ∃ source,
      Config.standard.tolerance.isFinite = true ∧
      StrictMonoOn r {x | x ∈ t.names ∨ x ∈ u.names} ∧
      check Config.standard t u s =
        (.ok
          ⟨false, ["x", "y"], 2, 1,
            some
              ⟨[("x", 2), ("y", 3)], .ofRat (1 / 2),
                .ofRat 3⟩⟩,
          source) ∧
      check Config.standard (.bin .div (.num 1) (.var "a"))
          (.var "bb") s =
        (.ok
          ⟨false, ["a", "bb"], 2, 1,
            some
              ⟨[("a", 2), ("bb", 3)], .ofRat (1 / 2),
                .ofRat 3⟩⟩,
          source) := by
  intro t u r s
  have hFinite :
      Config.standard.tolerance.isFinite = true := by
    rfl
  have hOrder :
      StrictMonoOn r {x | x ∈ t.names ∨ x ∈ u.names} := by
    rintro x (hx | hx) y (hy | hy) hLess
    · rw [List.mem_singleton.mp hx,
        List.mem_singleton.mp hy] at hLess
      exact absurd hLess (lt_irrefl _)
    · rw [List.mem_singleton.mp hx, List.mem_singleton.mp hy]
      decide +kernel
    · rw [List.mem_singleton.mp hx,
        List.mem_singleton.mp hy] at hLess
      exact absurd hLess (by decide +kernel)
    · rw [List.mem_singleton.mp hx,
        List.mem_singleton.mp hy] at hLess
      exact absurd hLess (lt_irrefl _)
  have hReport :
      (check Config.standard t u s).1 =
        .ok
          ⟨false, ["x", "y"], 2, 1,
            some
              ⟨[("x", 2), ("y", 3)], .ofRat (1 / 2),
                .ofRat 3⟩⟩ := by
    decide +kernel
  rcases check_rename hFinite hOrder
      (Samples.ofList [0, 1, 2, 3]) with
    ⟨report, source, hGiven, hRenamed⟩
  rw [show check Config.standard t u s = (.ok report, source)
    from hGiven] at hReport
  cases hReport
  exact ⟨source, hFinite, hOrder, hGiven, hRenamed⟩

end Termwise
