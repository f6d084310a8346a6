import Mathlib.Data.Finset.Card
import Mathlib.Data.List.Nodup
import Termwise.Proofs.Schema.TreeForm

/-
  Negative numbers in the JSON value of a tree.  Each of them
  is told once, in reading order and with the way to it, and
  nothing else is wrong with the value.

  Key definitions include:
    * `Issue.within`
    * `Checked.ofIssues`
    * `Tree.numberPlaces`
    * `Tree.toJsonReplacing`
    * `Tree.numberIssues`

  Main declarations:
    * `Checked.both_ofIssues`
    * `Tree.numberPlaces_nodup`
    * `Tree.ofJson_toJsonReplacing`
    * `Tree.ofJson_negative_numbers`
-/

namespace Termwise

------------------------------------------------------------
-- Values With Issues
------------------------------------------------------------

/- An issue with a value under a name in something larger. -/
def Issue.within (part : String) (i : Issue) : Issue :=
  ⟨i.kind, part :: i.place, i.subject⟩

namespace Checked

variable {α β : Type}

/- A value, unless there are issues with it. -/
def ofIssues (issues : List Issue) (x : α) : Checked α :=
  match issues with
  | [] => .ok x
  | i :: is => .error (i :: is)

/- Its issues are told by the names that it stands under. -/
theorem under_ofIssues
    (part : String)
    (issues : List Issue)
    (x : α) :
    under part (ofIssues issues x) =
      ofIssues (issues.map (Issue.within part)) x := by
  cases issues <;> rfl

/- Of two values the issues are told in order. -/
theorem both_ofIssues
    (is js : List Issue)
    (x : α)
    (y : β) :
    both (ofIssues is x) (ofIssues js y) =
      ofIssues (is ++ js) (x, y) := by
  cases is with
  | nil => cases js <;> rfl
  | cons i is =>
      cases js with
      | nil =>
          rw [List.append_nil]
          rfl
      | cons j js => rfl

/- If there are issues then these are told. -/
theorem ofIssues_of_ne_nil
    {issues : List Issue}
    (h : issues ≠ [])
    (x : α) :
    ofIssues issues x = .error issues := by
  cases issues with
  | nil => exact absurd rfl h
  | cons i is => rfl

/- A value that is changed keeps its issues. -/
theorem map_ofIssues
    (issues : List Issue)
    (x : α)
    (f : α → β) :
    (ofIssues issues x).map f = ofIssues issues (f x) := by
  cases issues <;> rfl

end Checked

namespace Tree

------------------------------------------------------------
-- Places of Numbers
------------------------------------------------------------

/-
  The ways to the values of the numbers of a tree, in reading
  order.  A way names the kind of every node that it passes
  and the field that it goes on by.
-/
def numberPlaces : Tree → List (List String)
| num _ => [["int", "value"]]
| var _ => []
| neg t => t.numberPlaces.map fun p => "neg" :: "arg" :: p
| bin op l r =>
    l.numberPlaces.map
        (fun p => NodeKind.opName op :: "arg1" :: p)
      ++ r.numberPlaces.map
        (fun p => NodeKind.opName op :: "arg2" :: p)

/- No two numbers have the same place. -/
theorem numberPlaces_nodup (t : Tree) :
    t.numberPlaces.Nodup := by
  have hSame : ∀ tag key : String, Function.Injective
      fun p : List String => tag :: key :: p := by
    intro tag key p q h
    exact (List.cons.inj (List.cons.inj h).2).2
  induction t with
  | num n => exact List.nodup_singleton _
  | var x => exact List.nodup_nil
  | neg t ih => exact ih.map (hSame "neg" "arg")
  | bin op l r ihLeft ihRight =>
      -- The ways part at the field of the operation.
      refine (ihLeft.map (hSame _ _)).append
        (ihRight.map (hSame _ _)) ?_
      intro p hLeft hRight
      rcases List.mem_map.mp hLeft with ⟨q, _, rfl⟩
      rcases List.mem_map.mp hRight with ⟨q₂, _, hPlace⟩
      have hKey := (List.cons.inj (List.cons.inj hPlace).2).1
      exact absurd hKey (by decide)

------------------------------------------------------------
-- Replaced Numbers
------------------------------------------------------------

/-
  The JSON value of a tree in which some numbers, told by
  their places, are replaced by other integers.
-/
def toJsonReplacing
    (value? : List String → Option Int) : Tree → Json
| num n =>
    .object
      [("node_type", .text "int"),
       ("value", .int ((value? ["int", "value"]).getD n))]
| var x =>
    .object
      [("node_type", .text "var"), ("name", .text x)]
| neg t =>
    .object
      [("node_type", .text "neg"),
       ("arg",
         t.toJsonReplacing fun p => value? ("neg" :: "arg" :: p))]
| bin op l r =>
    .object
      [("node_type", .text (NodeKind.opName op)),
       ("arg1",
         l.toJsonReplacing fun p =>
           value? (NodeKind.opName op :: "arg1" :: p)),
       ("arg2",
         r.toJsonReplacing fun p =>
           value? (NodeKind.opName op :: "arg2" :: p))]

/- If none is replaced that is the JSON value of the tree. -/
theorem toJsonReplacing_none (t : Tree) :
    t.toJsonReplacing (fun _ => none) = t.toJson := by
  induction t with
  | num n => rfl
  | var x => rfl
  | neg t ih => rw [toJsonReplacing, ih, toJson]
  | bin op l r ihLeft ihRight =>
      rw [toJsonReplacing, ihLeft, ihRight, toJson]

/- The issue with a number that may not be negative. -/
def numberIssue (p : List String) (n : Int) : Issue :=
  ⟨.atLeast 0, p, .int n⟩

/- What is wrong if some numbers are replaced. -/
def numberIssues
    (value? : List String → Option Int)
    (t : Tree) : List Issue :=
  t.numberPlaces.filterMap fun p =>
    (value? p).map (numberIssue p)

/- What is wrong with places that are all in one direction. -/
theorem filterMap_numberIssue
    (value? : List String → Option Int)
    (tag key : String)
    (places : List (List String)) :
    (places.map fun p => tag :: key :: p).filterMap
        (fun p => (value? p).map (numberIssue p)) =
      ((places.filterMap fun p =>
          (value? (tag :: key :: p)).map (numberIssue p)).map
        (Issue.within key)).map (Issue.within tag) := by
  rw [List.filterMap_map, List.map_filterMap,
    List.map_filterMap]
  refine List.filterMap_congr fun p _ => ?_
  show (value? (tag :: key :: p)).map _ = _
  cases value? (tag :: key :: p) <;> rfl

/- What is wrong with a negation. -/
theorem numberIssues_neg
    (value? : List String → Option Int)
    (t : Tree) :
    (neg t).numberIssues value? =
      ((t.numberIssues fun p => value? ("neg" :: "arg" :: p)).map
        (Issue.within "arg")).map (Issue.within "neg") :=
  filterMap_numberIssue value? "neg" "arg" t.numberPlaces

/- What is wrong with an operation. -/
theorem numberIssues_bin
    (value? : List String → Option Int)
    (op : Op)
    (l r : Tree) :
    (bin op l r).numberIssues value? =
      ((l.numberIssues fun p =>
            value? (NodeKind.opName op :: "arg1" :: p)).map
          (Issue.within "arg1")
        ++ (r.numberIssues fun p =>
            value? (NodeKind.opName op :: "arg2" :: p)).map
          (Issue.within "arg2")).map
        (Issue.within (NodeKind.opName op)) := by
  rw [numberIssues, numberPlaces, List.filterMap_append,
    filterMap_numberIssue, filterMap_numberIssue,
    List.map_append]
  rfl

section Places

variable {t : Tree} {places : Finset (List String)}

/- Some of the places of a tree, in reading order. -/
theorem length_filter_numberPlaces
    (hPlaces : places ⊆ t.numberPlaces.toFinset) :
    (t.numberPlaces.filter fun p => p ∈ places).length =
      places.card := by
  have hSame :
      (t.numberPlaces.filter fun p => p ∈ places).toFinset =
        places := by
    ext p
    rw [List.mem_toFinset, List.mem_filter, decide_eq_true_iff]
    constructor
    · exact fun h => h.2
    · exact fun h => ⟨List.mem_toFinset.mp (hPlaces h), h⟩
  rw [← List.toFinset_card_of_nodup
    (t.numberPlaces_nodup.filter _), hSame]

/- What is wrong if just the numbers there are replaced. -/
theorem numberIssues_of_mem
    (value : List String → Int) :
    t.numberIssues
        (fun p => if p ∈ places then some (value p) else none) =
      (t.numberPlaces.filter fun p => p ∈ places).map fun p =>
        numberIssue p (value p) := by
  rw [numberIssues, ← List.filterMap_eq_map,
    List.filterMap_filter]
  refine List.filterMap_congr fun p _ => ?_
  by_cases hMem : p ∈ places
  · simp [hMem]
  · simp [hMem]

end Places

section Reading

variable (rule : TreeRule)

/-
  A tree is read from its value with negative numbers in the
  place of some, unless there are any.
-/
theorem ofJson_toJsonReplacing
    {value? : List String → Option Int}
    (hNegative : ∀ p n, value? p = some n → n < 0)
    (t : Tree) :
    ofJson rule (t.toJsonReplacing value?) =
      Checked.ofIssues (t.numberIssues value?) t := by
  induction t generalizing value? with
  | num n =>
      rw [toJsonReplacing, ofJson_num rule rfl rfl,
        Checked.taken, Scalar.integerAtLeast, Scalar.integer,
        numberIssues, numberPlaces, List.filterMap_cons,
        List.filterMap_nil]
      cases hValue : value? ["int", "value"] with
      | none =>
          simp only [Option.getD_none,
            if_neg (Int.not_lt.mpr (Int.natCast_nonneg n))]
          rfl
      | some m =>
          simp only [Option.getD_some,
            if_pos (hNegative _ m hValue)]
          rfl
  | var x =>
      rw [toJsonReplacing, ofJson_var rule rfl rfl]
      cases rule <;> rfl
  | neg t ih =>
      rw [toJsonReplacing, ofJson_neg rule rfl rfl,
        ih fun p n => hNegative _ n, Checked.map_ofIssues,
        Checked.under_ofIssues, Checked.under_ofIssues,
        numberIssues_neg]
  | bin op l r ihLeft ihRight =>
      rw [toJsonReplacing, ofJson_bin rule rfl rfl rfl,
        ihLeft fun p n => hNegative _ n,
        ihRight fun p n => hNegative _ n,
        Checked.under_ofIssues, Checked.under_ofIssues,
        Checked.both_ofIssues, Checked.map_ofIssues,
        Checked.under_ofIssues, numberIssues_bin]

/-
  If the numbers at some places of a tree are replaced by
  negative ones, then there is an issue for each of these
  places and no other.  They are told in reading order, all
  say that the number should not be negative, and each has
  its place.  If there is no such place then the tree is read
  as it is.
-/
theorem ofJson_negative_numbers
    {t : Tree}
    {places : Finset (List String)}
    {value : List String → Int}
    (hPlaces : places ⊆ t.numberPlaces.toFinset)
    (hNegative : ∀ p ∈ places, value p < 0) :
    let j := t.toJsonReplacing fun p =>
      if p ∈ places then some (value p) else none
    (places = ∅ → j = t.toJson ∧ ofJson rule j = .ok t) ∧
      (places ≠ ∅ → ∃ issues,
        ofJson rule j = .error issues ∧
        issues.length = places.card ∧
        (∀ i ∈ issues,
          i.kind = .atLeast 0 ∧
          i.kind.code = "greater_than_equal" ∧
          i.subject = .int (value i.place)) ∧
        issues.map Issue.place =
          t.numberPlaces.filter fun p => p ∈ places) := by
  intro j
  let found := t.numberPlaces.filter fun p => p ∈ places
  have hRead :
      ofJson rule j =
        Checked.ofIssues
          (found.map fun p => numberIssue p (value p)) t := by
    rw [← numberIssues_of_mem]
    refine ofJson_toJsonReplacing rule ?_ t
    intro p n hValue
    split at hValue
    · next hMem =>
        cases hValue
        exact hNegative p hMem
    · cases hValue
  have hLength : found.length = places.card :=
    length_filter_numberPlaces hPlaces
  constructor
  · rintro rfl
    have hNone : found = [] :=
      List.eq_nil_of_length_eq_zero hLength
    rw [hNone] at hRead
    exact ⟨t.toJsonReplacing_none, hRead⟩
  · intro hSome
    have hMany :
        (found.map fun p => numberIssue p (value p)) ≠ [] := by
      rw [ne_eq, List.map_eq_nil_iff,
        ← List.length_eq_zero_iff, hLength]
      exact fun h => hSome (Finset.card_eq_zero.mp h)
    rw [Checked.ofIssues_of_ne_nil hMany] at hRead
    refine ⟨_, hRead, ?_, ?_, ?_⟩
    · rw [List.length_map, hLength]
    · intro i hi
      rcases List.mem_map.mp hi with ⟨p, _, rfl⟩
      exact ⟨rfl, rfl, rfl⟩
    · rw [List.map_map]
      exact List.map_id _

end Reading

/-
  Two numbers on both sides of a difference are negative, and
  the one between them is not.
-/
theorem ofJson_negative_numbers_difference :
    let t := bin .sub (neg (num 1)) (bin .mul (num 2) (num 3))
    let p := ["sub", "arg1", "neg", "arg", "int", "value"]
    let q := ["sub", "arg2", "mul", "arg2", "int", "value"]
    let value := fun r => if r = p then -5 else -7
    let j := t.toJsonReplacing fun r =>
      if r ∈ ({q, p} : Finset (List String)) then
        some (value r) else none
    ({q, p} : Finset (List String)) ⊆
        t.numberPlaces.toFinset ∧
      (∀ r ∈ ({q, p} : Finset (List String)), value r < 0) ∧
      ∃ issues, ofJson .data j = .error issues ∧
        issues.length = 2 ∧
        (∀ i ∈ issues,
          i.kind = .atLeast 0 ∧
          i.kind.code = "greater_than_equal" ∧
          i.subject = .int (value i.place)) ∧
        issues.map Issue.place = [p, q] := by
  intro t p q value j
  have hPlaces : ({q, p} : Finset (List String)) ⊆
      t.numberPlaces.toFinset := by
    decide
  have hNegative :
      ∀ r ∈ ({q, p} : Finset (List String)), value r < 0 := by
    decide
  have hSome : ({q, p} : Finset (List String)) ≠ ∅ := by decide
  exact ⟨hPlaces, hNegative,
    (ofJson_negative_numbers .data hPlaces hNegative).2 hSome⟩

end Tree

end Termwise
