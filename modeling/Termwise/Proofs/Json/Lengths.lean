import Mathlib.Tactic.SplitIfs
import Termwise.Json.Read
import Termwise.Proofs.Json.Everywhere
import Termwise.Proofs.Text.Numeral

/-
  In a dialect that refuses long numbers, every integer of a
  value that is read has few enough digits to be written.

  Key definitions include:
    * `Json.IsShort`
    * `Json.Mark.Holds`
    * `Json.Frame.Holds`
    * `Json.Reader.Holds`

  Main declarations:
    * `Json.short_of_mem_marks`
    * `Json.Reader.Holds.take`
    * `Json.short_of_readChars`
-/

namespace Termwise

namespace Json

/- A value is no integer with too many digits. -/
def IsShort : Json → Prop
| int n => Text.Writable n.natAbs
| _ => True

/- A mark that is a value has a property everywhere. -/
def Mark.Holds (P : Json → Prop) : Mark → Prop
| atom v => Everywhere P v
| _ => True

------------------------------------------------------------
-- Scanned Numbers
------------------------------------------------------------

section Scanning

variable {d : Dialect} {m : Mark} {cs rest : List Char}

/- What stands before a point are digits. -/
theorem isDigit_of_mem_whole
    {whole : List Char}
    (h : scanWhole? cs = some (whole, rest)) :
    ∀ c ∈ whole, Text.isDigit c = true := by
  cases cs with
  | nil => cases h
  | cons c cs =>
      rw [scanWhole?] at h
      split at h
      · cases h
        intro e he
        rw [List.mem_singleton.mp he]
        decide
      · split at h
        · next hDigit =>
            cases h
            refine List.forall_mem_cons.mpr ⟨hDigit, ?_⟩
            exact List.all_eq_true.mp List.all_takeWhile
        · cases h

/- No rule that refuses whole numbers lets long ones pass. -/
theorem length_le_of_not_refuses
    {rule : LengthRule}
    {n : Nat}
    (hRule : rule ≠ .noNumbers)
    (h : rule.refuses n true = false) :
    n ≤ Text.digitLimit := by
  cases rule with
  | noNumbers => exact absurd rfl hRule
  | wholeNumbers | allNumbers =>
      simpa [LengthRule.refuses] using h

/- A number without a sign is scanned as a short integer. -/
theorem short_of_scanUnsigned?
    {rule : LengthRule}
    {negative : Bool}
    (hRule : rule ≠ .noNumbers)
    (h : scanUnsigned? rule negative cs = some (m, rest)) :
    m.Holds IsShort := by
  unfold scanUnsigned? at h
  cases hWhole : scanWhole? cs with
  | none =>
      rw [hWhole] at h
      cases h
  | some parts =>
      rcases parts with ⟨whole, afterWhole⟩
      have hDigits := isDigit_of_mem_whole hWhole
      rw [hWhole] at h
      simp only at h
      split at h
      · cases h
        trivial
      · next hAccepted =>
          split at h
          · next hAll =>
              cases h
              rw [decide_eq_true hAll, Bool.not_eq_true]
                at hAccepted
              have hShort := Text.writable_numeralValue hDigits
                (length_le_of_not_refuses hRule hAccepted)
              cases negative with
              | false => exact hShort
              | true =>
                  show Text.Writable (-(_ : Int)).natAbs
                  rw [Int.natAbs_neg]
                  exact hShort
          · cases h
            trivial

/- So is a number with a sign. -/
theorem short_of_scanNumber?
    {rule : LengthRule}
    (hRule : rule ≠ .noNumbers)
    (h : scanNumber? rule cs = some (m, rest)) :
    m.Holds IsShort := by
  unfold scanNumber? at h
  split at h
  · exact short_of_scanUnsigned? hRule h
  · exact short_of_scanUnsigned? hRule h

/- A string is no integer. -/
theorem short_of_scanString?
    {v : Json}
    (h : scanString? d cs = some (v, rest)) :
    Everywhere IsShort v := by
  unfold scanString? at h
  split at h
  · cases h
  · next pieces after hPieces =>
      unfold ofPieces at h
      cases hJoin : joinPieces? pieces [] with
      | none =>
          simp only [hJoin] at h
          split at h
          · cases h
            trivial
          · cases h
      | some chars =>
          simp only [hJoin] at h
          cases h
          trivial

/- A word is no integer. -/
theorem short_of_scanWord?
    (h : scanWord? cs = some (m, rest)) :
    m.Holds IsShort := by
  rcases List.exists_of_findSome?_eq_some h with
    ⟨⟨word, v⟩, hWord, hFound⟩
  rcases Option.map_eq_some_iff.mp hFound with
    ⟨after, _, hSame⟩
  cases hSame
  simp only [words, List.mem_cons, Prod.mk.injEq,
    List.not_mem_nil, or_false] at hWord
  rcases hWord with ⟨_, rfl⟩ | ⟨_, rfl⟩ | ⟨_, rfl⟩ | ⟨_, rfl⟩ |
    ⟨_, rfl⟩ | ⟨_, rfl⟩
  all_goals trivial

/- A value without parts is no long integer. -/
theorem short_of_scanAtom?
    (hRule : d.lengths ≠ .noNumbers)
    (h : scanAtom? d cs = some (m, rest)) :
    m.Holds IsShort := by
  unfold scanAtom? at h
  split at h
  · rcases Option.map_eq_some_iff.mp h with
      ⟨⟨v, after⟩, hString, hSame⟩
    cases hSame
    exact short_of_scanString? hString
  · split at h
    · next found hWord =>
        cases h
        exact short_of_scanWord? hWord
    · exact short_of_scanNumber? hRule h

end Scanning

/- A character that stands for itself is no value. -/
theorem holds_of_symbolMark?
    {P : Json → Prop}
    {c : Char}
    {m : Mark}
    (h : symbolMark? c = some m) :
    m.Holds P := by
  unfold symbolMark? at h
  split_ifs at h
  all_goals
    cases h
    trivial

/- No mark of a text is a long integer. -/
theorem short_of_mem_marks
    {d : Dialect}
    (hRule : d.lengths ≠ .noNumbers)
    (fuel : Nat)
    (cs : List Char) :
    ∀ m ∈ marksWithin d fuel cs, m.Holds IsShort := by
  fun_induction marksWithin d fuel cs with
  | case1 | case2 => exact List.forall_mem_nil _
  | case3 fuel c cs hBlank ih => exact ih
  | case4 fuel c cs hBlank m hSymbol ih =>
      exact List.forall_mem_cons.mpr
        ⟨holds_of_symbolMark? hSymbol, ih⟩
  | case5 fuel c cs hBlank hSymbol m rest hAtom ih =>
      exact List.forall_mem_cons.mpr
        ⟨short_of_scanAtom? hRule hAtom, ih⟩
  | case6 fuel c cs hBlank hSymbol hAtom =>
      exact List.forall_mem_singleton.mpr trivial

------------------------------------------------------------
-- The Reader
------------------------------------------------------------

variable {P : Json → Prop}

/- A property holds everywhere in the members of an object. -/
def Members.Holds (P : Json → Prop) (m : Members) : Prop :=
  ∀ f ∈ m.fields, Everywhere P f.2

/- A property holds everywhere in what is still open. -/
def Frame.Holds (P : Json → Prop) : Frame → Prop
| list items => ∀ v ∈ items, Everywhere P v
| object members => members.Holds P
| entry members _ => members.Holds P

/- A property holds everywhere in what a reader has read. -/
structure Reader.Holds
    (P : Json → Prop)
    (r : Reader) : Prop where
  stack : ∀ f ∈ r.stack, f.Holds P
  finish : ∀ v, r.awaiting = .finish v → Everywhere P v

/- Members that hold a property make up an object with it. -/
theorem Members.Holds.toJson
    {m : Members}
    (hBroken : P .broken)
    (h : m.Holds P) :
    Everywhere P m.toJson := by
  unfold Members.toJson
  split
  · refine everywhere_object.mpr fun f hf => ?_
    rcases List.mem_append.mp hf with hField | hStray
    · exact h f hField
    · rw [List.mem_singleton.mp hStray, Everywhere]
      · exact hBroken
      all_goals simp
  · exact everywhere_object.mpr h

/- A value with the property may be put among members. -/
theorem Members.Holds.put
    {m : Members}
    {v : Json}
    (hValue : Everywhere P v)
    (h : m.Holds P)
    (key : Option String) :
    (m.put key v).Holds P := by
  cases key with
  | none => exact h
  | some key =>
      intro f hf
      rcases mem_put hf with rfl | hOld
      · exact hValue
      · exact h f hOld

namespace Reader

variable {stack : List Frame}

/- A reader that waits for more holds what is open. -/
theorem Holds.of_stack
    {awaiting : Awaiting}
    (h : ∀ f ∈ stack, f.Holds P)
    (hMore : ∀ v, awaiting ≠ .finish v) :
    Holds P ⟨stack, awaiting⟩ where
  stack := h
  finish := fun v hFinish => absurd hFinish (hMore v)

/- A finished value keeps the property where it is put. -/
theorem Holds.deliver
    {v : Json}
    (hValue : Everywhere P v)
    (h : ∀ f ∈ stack, f.Holds P) :
    Holds P (Reader.deliver v stack) := by
  cases stack with
  | nil =>
      refine ⟨List.forall_mem_nil _, ?_⟩
      intro w hFinish
      cases hFinish
      exact hValue
  | cons f rest =>
      rcases List.forall_mem_cons.mp h with ⟨hFirst, hRest⟩
      cases f with
      | list items =>
          refine .of_stack (List.forall_mem_cons.mpr
            ⟨?_, hRest⟩) (fun _ => Awaiting.noConfusion)
          exact List.forall_mem_cons.mpr ⟨hValue, hFirst⟩
      | object members =>
          exact .of_stack h (fun _ => Awaiting.noConfusion)
      | entry members key =>
          refine .of_stack (List.forall_mem_cons.mpr
            ⟨?_, hRest⟩) (fun _ => Awaiting.noConfusion)
          exact Members.Holds.put hValue hFirst key

/- A mark where a value has to come keeps the property. -/
theorem Holds.takeValue
    {m : Mark}
    {r : Reader}
    (hMark : m.Holds P)
    (h : ∀ f ∈ stack, f.Holds P)
    (hTake : Reader.takeValue stack m = .ok r) :
    r.Holds P := by
  cases m with
  | atom v =>
      cases hTake
      exact .deliver hMark h
  | openList =>
      cases hTake
      refine .of_stack (List.forall_mem_cons.mpr ⟨?_, h⟩)
        (fun _ => Awaiting.noConfusion)
      exact List.forall_mem_nil _
  | openObject =>
      cases hTake
      refine .of_stack (List.forall_mem_cons.mpr ⟨?_, h⟩)
        (fun _ => Awaiting.noConfusion)
      exact List.forall_mem_nil _
  | closeList | closeObject | comma | colon | overlong | bad =>
      cases hTake

/- A mark where a key has to come keeps the property. -/
theorem Holds.takeKey
    {m : Mark}
    {r : Reader}
    (h : ∀ f ∈ stack, f.Holds P)
    (hTake : Reader.takeKey stack m = .ok r) :
    r.Holds P := by
  unfold Reader.takeKey at hTake
  split at hTake
  · cases hTake
    rcases List.forall_mem_cons.mp h with ⟨hFirst, hRest⟩
    exact .of_stack (List.forall_mem_cons.mpr
      ⟨hFirst, hRest⟩) (fun _ => Awaiting.noConfusion)
  · cases hTake
    rcases List.forall_mem_cons.mp h with ⟨hFirst, hRest⟩
    exact .of_stack (List.forall_mem_cons.mpr
      ⟨hFirst, hRest⟩) (fun _ => Awaiting.noConfusion)
  · cases hTake

/- A mark that closes what is open keeps the property. -/
theorem Holds.takeClose
    {m : Mark}
    {r : Reader}
    (hBroken : P .broken)
    (h : ∀ f ∈ stack, f.Holds P)
    (hTake : Reader.takeClose stack m = .ok r) :
    r.Holds P := by
  unfold Reader.takeClose at hTake
  split at hTake
  · next items rest =>
      cases hTake
      rcases List.forall_mem_cons.mp h with ⟨hFirst, hRest⟩
      refine .deliver (everywhere_list.mpr ?_) hRest
      intro v hv
      exact hFirst v (List.mem_reverse.mp hv)
  · next members rest =>
      cases hTake
      rcases List.forall_mem_cons.mp h with ⟨hFirst, hRest⟩
      exact .deliver (Members.Holds.toJson hBroken hFirst) hRest
  · cases hTake

/- A mark between two parts keeps the property. -/
theorem Holds.takeBetween
    {m : Mark}
    {r : Reader}
    (hBroken : P .broken)
    (h : ∀ f ∈ stack, f.Holds P)
    (hTake : Reader.takeBetween stack m = .ok r) :
    r.Holds P := by
  unfold Reader.takeBetween at hTake
  split at hTake
  · cases hTake
    exact .of_stack h (fun _ => Awaiting.noConfusion)
  · cases hTake
    exact .of_stack h (fun _ => Awaiting.noConfusion)
  · exact .takeClose hBroken h hTake

/- The first mark inside is taken, or is too deep. -/
theorem takeFirst_eq_ok
    {d : Dialect}
    {r r₁ : Reader}
    {next : Except ReadFault Reader}
    (h : takeFirst d r next = .ok r₁) :
    next = .ok r₁ := by
  unfold takeFirst at h
  split at h
  · exact h
  · cases h

/- Every mark that is taken keeps the property. -/
theorem Holds.take
    {d : Dialect}
    {m : Mark}
    {r r₁ : Reader}
    (hBroken : P .broken)
    (hMark : m.Holds P)
    (h : r.Holds P)
    (hTake : r.take d m = .ok r₁) :
    r₁.Holds P := by
  unfold Reader.take at hTake
  split at hTake
  · exact .takeValue hMark h.stack hTake
  · split at hTake
    · exact .takeClose hBroken h.stack hTake
    · exact .takeValue hMark h.stack (takeFirst_eq_ok hTake)
  · exact .takeKey h.stack hTake
  · split at hTake
    · exact .takeClose hBroken h.stack hTake
    · exact .takeKey h.stack (takeFirst_eq_ok hTake)
  · split at hTake
    · cases hTake
      exact .of_stack h.stack (fun _ => Awaiting.noConfusion)
    · cases hTake
  · exact .takeBetween hBroken h.stack hTake
  · cases hTake

/- So do all marks in turn. -/
theorem Holds.takeAll
    {d : Dialect}
    {ms : List Mark}
    {r r₁ : Reader}
    (hBroken : P .broken)
    (hMarks : ∀ m ∈ ms, m.Holds P)
    (h : r.Holds P)
    (hTake : r.takeAll d ms = .ok r₁) :
    r₁.Holds P := by
  induction ms generalizing r with
  | nil =>
      cases hTake
      exact h
  | cons m ms ih =>
      rcases List.forall_mem_cons.mp hMarks with
        ⟨hFirst, hRest⟩
      rw [Reader.takeAll] at hTake
      split at hTake
      · next r₂ hNext =>
          exact ih hRest (h.take hBroken hFirst hNext) hTake
      · cases hTake

end Reader

/- The integers of a value that is read are short. -/
theorem short_of_readChars
    {d : Dialect}
    {cs : List Char}
    {v : Json}
    (hRule : d.lengths ≠ .noNumbers)
    (h : readChars d cs = .ok v) :
    Everywhere IsShort v := by
  unfold readChars ofMarks at h
  split at h
  · cases h
  · next r hTake =>
      split at h
      · next w hFinish =>
          cases h
          have hStart : Reader.start.Holds IsShort :=
            .of_stack (List.forall_mem_nil _)
              (fun _ => Awaiting.noConfusion)
          have hEnd := hStart.takeAll trivial
            (short_of_mem_marks hRule _ _) hTake
          exact hEnd.finish _ hFinish
      · cases h

end Json

end Termwise
