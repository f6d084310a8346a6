import Mathlib.Data.Nat.Init
import Termwise.Print.Limit
import Termwise.Proofs.Json.Lengths
import Termwise.Proofs.Schema.Checked
import Termwise.Schema.TreeForm

/-
  A tree that is read from a value without long integers can
  be written.  From a value that can be written, trees are
  read alike by all rules for given data.

  Main declarations:
    * `Scalar.writable_of_integer`
    * `Tree.ofJson_eq_ok`
    * `Tree.writable_of_ofJson`
    * `Tree.tellable_ofJson`
    * `Tree.ofJson_loose`
-/

namespace Termwise

------------------------------------------------------------
-- Integers
------------------------------------------------------------

namespace Scalar

/- Digits that are taken for a number can be written. -/
theorem writable_of_naturalOfDigits?
    {digits : List Char}
    {n : Nat}
    (h : naturalOfDigits? digits = some n) :
    Text.Writable n := by
  unfold naturalOfDigits? at h
  split at h
  · next hDigits =>
      cases h
      refine Text.writable_numeralValue ?_ hDigits.2
      have hNumeral := hDigits.1
      simp only [isNumeral, Bool.or_eq_true, Bool.and_eq_true,
        beq_iff_eq, List.all_eq_true] at hNumeral
      rcases hNumeral with hZero | ⟨⟨_, hAll⟩, _⟩
      · rw [hZero]
        exact List.forall_mem_singleton.mpr rfl
      · exact hAll
  · cases h

/- An integer that a text is given for can be written. -/
theorem writable_of_integerOfText
    {s : String}
    {n : Int}
    (h : integerOfText s = .ok n) :
    Text.Writable n.natAbs := by
  unfold integerOfText at h
  split at h
  · cases h
  · split at h
    · next m hPlain =>
        cases h
        rcases Option.bind_eq_some_iff.mp hPlain with
          ⟨digits, _, hDigits⟩
        unfold integerOfPlain? at hDigits
        split at hDigits
        · rcases Option.map_eq_some_iff.mp hDigits with
            ⟨k, hNatural, rfl⟩
          rcases Option.bind_eq_some_iff.mp hNatural with
            ⟨m, hSome, hCast⟩
          cases hCast
          rw [Int.natAbs_neg]
          exact writable_of_naturalOfDigits? hSome
        · rcases Option.map_eq_some_iff.mp hDigits with
            ⟨k, hNatural, rfl⟩
          rcases Option.bind_eq_some_iff.mp hNatural with
            ⟨m, hSome, hCast⟩
          cases hCast
          exact writable_of_naturalOfDigits? hSome
    · cases h

/- An integer that a double is can be written. -/
theorem writable_of_integerOfDouble
    {d : Double}
    {n : Int}
    (h : integerOfDouble d = .ok n) :
    Text.Writable n.natAbs := by
  have hBound : twoTo 63 < tenTo Text.digitLimit := by
    decide +kernel
  unfold integerOfDouble at h
  split at h
  · cases h
  · split at h
    · cases h
    · split at h
      · next hWord =>
          cases h
          rw [wordBound] at hWord
          show _ < tenTo Text.digitLimit
          omega
      · cases h

/- An integer that is taken from a short value is short. -/
theorem writable_of_integer
    {j : Json}
    {n : Int}
    (hShort : Json.Everywhere Json.IsShort j)
    (h : integer j = .ok n) :
    Text.Writable n.natAbs := by
  cases j with
  | int m =>
      cases h
      exact hShort
  | bool b =>
      cases h
      cases b <;> decide +kernel
  | float d => exact writable_of_integerOfDouble h
  | text s => exact writable_of_integerOfText h
  | null | broken | list | object => cases h

/- What is not too small is taken as it is. -/
theorem integerAtLeast_eq_ok
    {low n : Int}
    {j : Json}
    (h : integerAtLeast low j = .ok n) :
    integer j = .ok n ∧ low ≤ n := by
  unfold integerAtLeast at h
  split at h
  · cases h
  · next m hInteger =>
      split at h
      · cases h
      · next hLow =>
          cases h
          exact ⟨hInteger, Int.not_lt.mp hLow⟩

/- So is what is not too great, either. -/
theorem integerBetween_eq_ok
    {low high n : Int}
    {j : Json}
    (h : integerBetween low high j = .ok n) :
    integer j = .ok n ∧ low ≤ n ∧ n ≤ high := by
  unfold integerBetween at h
  split at h
  · cases h
  · next m hInteger =>
      split at h
      · cases h
      · next hHigh =>
          cases h
          rcases integerAtLeast_eq_ok hInteger with
            ⟨hTaken, hLow⟩
          exact ⟨hTaken, hLow, Int.not_lt.mp hHigh⟩

end Scalar

------------------------------------------------------------
-- Trees That Are Read
------------------------------------------------------------

namespace Tree

/-
  What the fields of an object hold from which a tree is
  read: a value for each part of its first node.
-/
def HasParts
    (rule : TreeRule)
    (fields : List (String × Json)) : Tree → Prop
| num n =>
    ∃ v m, Json.lookup? "value" fields = some v ∧
      Scalar.integer v = .ok m ∧ n = m.toNat
| var x =>
    ∃ v, Json.lookup? "name" fields = some v ∧
      rule.name v = .ok x
| neg t =>
    ∃ v, Json.lookup? "arg" fields = some v ∧
      ofJson rule v = .ok t
| bin _ l r =>
    ∃ v w, Json.lookup? "arg1" fields = some v ∧
      ofJson rule v = .ok l ∧
      Json.lookup? "arg2" fields = some w ∧
      ofJson rule w = .ok r

/- A tree is read from an object that has its parts. -/
theorem ofJson_eq_ok
    {rule : TreeRule}
    {j : Json}
    {t : Tree}
    (h : ofJson rule j = .ok t) :
    ∃ fields, j = .object fields ∧ t.HasParts rule fields := by
  unfold ofJson at h
  split at h
  case h_2 => cases h
  case h_1 fields =>
    refine ⟨fields, rfl, ?_⟩
    split at h
    · cases h
    · split at h
      · cases h
      · rcases required_eq_ok (Checked.under_eq_ok.mp h) with
          ⟨v, hField, hTaken⟩
        rcases map_eq_ok.mp hTaken with
          ⟨m, hInteger, rfl⟩
        have hAtLeast := Checked.taken_eq_ok.mp hInteger
        exact ⟨v, m, hField,
          (Scalar.integerAtLeast_eq_ok hAtLeast).1, rfl⟩
      · rcases required_eq_ok (Checked.under_eq_ok.mp h) with
          ⟨v, hField, hTaken⟩
        rcases map_eq_ok.mp hTaken with
          ⟨x, hName, rfl⟩
        exact ⟨v, hField, Checked.taken_eq_ok.mp hName⟩
      · rcases required_eq_ok (Checked.under_eq_ok.mp h) with
          ⟨v, hField, hRead⟩
        rcases map_eq_ok.mp hRead with ⟨u, hArg, rfl⟩
        exact ⟨v, hField, hArg⟩
      · rcases map_eq_ok.mp
            (Checked.under_eq_ok.mp h) with
          ⟨⟨l, r⟩, hBoth, rfl⟩
        rcases Checked.both_eq_ok.mp hBoth with
          ⟨hLeft, hRight⟩
        rcases required_eq_ok hLeft with ⟨v, hField, hRead⟩
        rcases required_eq_ok hRight with ⟨w, hField₂, hRead₂⟩
        exact ⟨v, w, hField, hRead, hField₂, hRead₂⟩

/- The numbers of a tree are short if those of its value are. -/
theorem writable_of_ofJson
    {rule : TreeRule}
    {j : Json}
    {t : Tree}
    (hShort : Json.Everywhere Json.IsShort j)
    (h : ofJson rule j = .ok t) :
    t.Writable := by
  induction t generalizing j with
  | num n =>
      rcases ofJson_eq_ok h with
        ⟨fields, rfl, v, m, hField, hInteger, rfl⟩
      have hValue := Json.everywhere_of_lookup? hShort hField
      have hNumber := Scalar.writable_of_integer hValue hInteger
      intro n hn
      rw [List.mem_singleton.mp hn]
      show m.toNat < _
      have hLess : m.natAbs < tenTo Text.digitLimit := hNumber
      omega
  | var x =>
      intro n hn
      cases hn
  | neg t ih =>
      rcases ofJson_eq_ok h with ⟨fields, rfl, v, hField, hArg⟩
      exact ih (Json.everywhere_of_lookup? hShort hField) hArg
  | bin op l r ihLeft ihRight =>
      rcases ofJson_eq_ok h with
        ⟨fields, rfl, v, w, hField, hLeft, hField₂, hRight⟩
      have hFirst := ihLeft
        (Json.everywhere_of_lookup? hShort hField) hLeft
      have hSecond := ihRight
        (Json.everywhere_of_lookup? hShort hField₂) hRight
      intro n hn
      rcases List.mem_append.mp hn with hn | hn
      · exact hFirst n hn
      · exact hSecond n hn

------------------------------------------------------------
-- Trees of Writable Values
------------------------------------------------------------

/-
  The issues with a tree can be told if its value can be
  written.  The induction follows the reading.
-/
theorem tellable_ofJson
    (rule : TreeRule)
    (j : Json)
    (hj : j.isWritable = true) :
    (ofJson rule j).Tellable := by
  fun_induction ofJson rule j with
  | case1 fields hNone => exact Checked.tellable_issue hj _
  | case2 fields tag hTag hNone =>
      exact Checked.tellable_issue hj _
  | case3 fields tag hTag hKind =>
      refine (Checked.tellable_required hj ?_).under _
      intro v _ hv
      exact (Checked.tellable_taken hv _).map _
  | case4 fields tag hTag hKind =>
      refine (Checked.tellable_required hj ?_).under _
      intro v _ hv
      exact (Checked.tellable_taken hv _).map _
  | case5 fields tag hTag hKind ih =>
      refine (Checked.tellable_required hj ?_).under _
      intro v hField hv
      exact (ih v hField hv).map _
  | case6 fields tag hTag op hKind ihLeft ihRight =>
      refine (Checked.Tellable.map (.both ?_ ?_) _).under _
      · exact Checked.tellable_required hj ihLeft
      · exact Checked.tellable_required hj ihRight
  | case7 j hOther => exact Checked.tellable_issue hj _

/- Fields are read alike by rules that agree on their values. -/
theorem required_congr
    {α : Type}
    {key : String}
    {fields : List (String × Json)}
    {rule rule₂ :
      (v : Json) → Json.lookup? key fields = some v → Checked α}
    (h : ∀ v hField, rule v hField = rule₂ v hField) :
    required key fields rule = required key fields rule₂ := by
  have hSame : rule = rule₂ := by
    funext v hField
    exact h v hField
  rw [hSame]

/-
  A loose reading differs only for broken names, and a value
  that can be written has none.
-/
theorem ofJson_loose
    (j : Json)
    (hj : j.isWritable = true) :
    ofJson .loose j = ofJson .data j := by
  fun_induction ofJson .loose j with
  | case1 fields hNone => simp only [ofJson, hNone]
  | case2 fields tag hTag hNone =>
      simp only [ofJson, hTag, hNone]
  | case3 fields tag hTag hKind =>
      simp only [ofJson, hTag, hKind]
  | case4 fields tag hTag hKind =>
      simp only [ofJson, hTag, hKind]
      refine congrArg _ (required_congr fun v hField => ?_)
      cases v with
      | broken => cases Json.isWritable_of_lookup? hj hField
      | null | bool | int | float | text | list | object =>
          rfl
  | case5 fields tag hTag hKind ih =>
      simp only [ofJson, hTag, hKind]
      refine congrArg _ (required_congr fun v hField => ?_)
      have hv := Json.isWritable_of_lookup? hj hField
      rw [ih v hField hv]
  | case6 fields tag hTag op hKind ihLeft ihRight =>
      have hLeft :
          required "arg1" fields (fun v _ =>
              ofJson .loose v) =
            required "arg1" fields (fun v _ =>
              ofJson .data v) :=
        required_congr fun v hField =>
          ihLeft v hField (Json.isWritable_of_lookup? hj hField)
      have hRight :
          required "arg2" fields (fun v _ =>
              ofJson .loose v) =
            required "arg2" fields (fun v _ =>
              ofJson .data v) :=
        required_congr fun v hField =>
          ihRight v hField
            (Json.isWritable_of_lookup? hj hField)
      simp only [ofJson, hTag, hKind, hLeft, hRight]
  | case7 j hOther =>
      cases j with
      | object fields => exact absurd rfl (hOther fields)
      | null | bool | int | float | text | broken | list =>
          simp only [ofJson, TreeRule.issue]

end Tree

end Termwise
