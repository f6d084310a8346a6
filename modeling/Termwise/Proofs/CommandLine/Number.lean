import Mathlib.Data.List.Basic
import Mathlib.Data.List.TakeWhile
import Termwise.CommandLine.Number
import Termwise.CommandLine.Word
import Termwise.Proofs.Syntax.Scanning
import Termwise.Proofs.Text.Numeral

/-
  The text of an integer on a command line.  It is read as
  the integer if it has few enough digits, and if it starts
  with a hyphen it looks like a negative number.

  Main declarations:
    * `Text.grouped?_eq`
    * `Text.trim_eq`
    * `CommandLine.readInteger?_integer`
    * `Spelling.isNegative_numeral`
-/

namespace Termwise

namespace Text

------------------------------------------------------------
-- Digits of Any Script
------------------------------------------------------------

/- An ASCII digit has the same value among all digits. -/
theorem digitValue?_of_isDigit
    {c : Char}
    (h : isDigit c = true) :
    digitValue? c = some (c.toNat - '0'.toNat) := by
  have hCode := (isDigit_iff c).mp h
  have hFirst : zeroDigits = 0x30 :: zeroDigits.tail := rfl
  rw [digitValue?, hFirst, List.find?_cons_of_pos]
  · rfl
  · simp only [Bool.and_eq_true, decide_eq_true_eq]
    omega

/- So it is a digit of some script. -/
theorem isAnyDigit_of_isDigit
    {c : Char}
    (h : isDigit c = true) :
    isAnyDigit c = true := by
  rw [isAnyDigit, digitValue?_of_isDigit h]
  rfl

/- ASCII digits have the same number among all digits. -/
theorem anyNumeralValue_eq
    {digits : List Char}
    (h : ∀ c ∈ digits, isDigit c = true) :
    anyNumeralValue digits = numeralValue digits := by
  refine List.foldl_ext _ _ 0 fun n c hc => ?_
  rw [digitValue?_of_isDigit (h c hc)]
  rfl

/- Digits without underscores are grouped as they are. -/
theorem grouped?_eq
    {digit : Char → Bool}
    (hUnderscore : digit '_' = false)
    {cs : List Char}
    (hSome : cs ≠ [])
    (h : ∀ c ∈ cs, digit c = true) :
    grouped? digit cs = some cs := by
  fun_induction grouped? digit cs with
  | case1 => exact absurd rfl hSome
  | case2 c hDigit => rfl
  | case3 c hDigit => exact absurd (h c (.head _)) hDigit
  | case4 c rest hDigit ih =>
      have hSecond := h '_' (.tail _ (.head _))
      rw [hUnderscore] at hSecond
      cases hSecond
  | case5 c rest hDigit => exact absurd (h c (.head _)) hDigit
  | case6 c rest hMore hOther hDigit ih =>
      rw [ih (fun hNone => hMore hNone)
        fun d hd => h d (.tail _ hd)]
      rfl
  | case7 c rest hMore hOther hDigit =>
      exact absurd (h c (.head _)) hDigit

/- A text is trimmed to itself if its ends are kept. -/
theorem trim_eq
    {drop : Char → Bool}
    {cs : List Char}
    (h : ∀ c ∈ cs, drop c = false) :
    trim drop cs = cs := by
  have hKept : ∀ ds : List Char, (∀ c ∈ ds, drop c = false) →
      ds.dropWhile drop = ds := by
    intro ds hds
    cases ds with
    | nil => rfl
    | cons d rest =>
        exact List.dropWhile_cons_of_neg
          (by rw [hds d (.head _)]; exact Bool.noConfusion)
  rw [trim, hKept cs h, hKept cs.reverse, List.reverse_reverse]
  exact fun c hc => h c (List.mem_reverse.mp hc)

/- No digit is white space. -/
theorem isSpacing_of_isDigit
    {c : Char}
    (h : isDigit c = true) :
    isSpacing c = false := by
  have hCode := (isDigit_iff c).mp h
  rw [Bool.eq_false_iff]
  intro hSpacing
  have hBlank : isBlank c = true := by
    rw [isBlank, ← isSpacing, hSpacing]
    rfl
  have hOther := toNat_of_isBlank hBlank
  omega

------------------------------------------------------------
-- Integers
------------------------------------------------------------

/- The text of an integer is a numeral with or without sign. -/
theorem integerChars_cases (n : Int) :
    integerChars n = numeral n.natAbs ∧ 0 ≤ n ∨
      integerChars n = '-' :: numeral n.natAbs ∧ n < 0 := by
  cases n with
  | ofNat n => exact .inl ⟨rfl, Int.natCast_nonneg n⟩
  | negSucc n => exact .inr ⟨rfl, Int.negSucc_lt_zero n⟩

/- Every character of it is a digit or a hyphen. -/
theorem isDigit_of_mem_integerChars
    {n : Int}
    {c : Char}
    (h : c ∈ integerChars n) :
    isDigit c = true ∨ c = '-' := by
  rcases integerChars_cases n with ⟨hChars, _⟩ | ⟨hChars, _⟩
  · rw [hChars] at h
    exact .inl (isDigit_of_mem_numeral h)
  · rw [hChars] at h
    rcases List.mem_cons.mp h with rfl | h
    · exact .inr rfl
    · exact .inl (isDigit_of_mem_numeral h)

end Text

namespace CommandLine

open Text (integerChars numeral)

/- The digits of a number that can be written are read. -/
theorem readNatural?_numeral
    {n : Nat}
    (h : Text.Writable n) :
    readNatural? (numeral n) = some n := by
  have hDigits : ∀ c ∈ numeral n, Text.isDigit c = true :=
    fun _ hc => Text.isDigit_of_mem_numeral hc
  have hGrouped :
      Text.grouped? Text.isAnyDigit (numeral n) =
        some (numeral n) :=
    Text.grouped?_eq (by decide) (Text.numeral_ne_nil n)
      fun c hc => Text.isAnyDigit_of_isDigit (hDigits c hc)
  simp only [readNatural?, hGrouped,
    if_pos (Text.length_numeral_le_of_writable h),
    Text.anyNumeralValue_eq hDigits, Text.numeralValue_numeral]

/- The text of an integer that can be written is read. -/
theorem readInteger?_integer
    {n : Int}
    (h : Text.Writable n.natAbs) :
    readInteger? (Text.integer n) = some n := by
  have hTrimmed :
      Text.trim Text.isSpacing (Text.integer n).toList =
        integerChars n := by
    rw [Text.integer, String.toList_ofList]
    refine Text.trim_eq fun c hc => ?_
    rcases Text.isDigit_of_mem_integerChars hc with hDigit | rfl
    · exact Text.isSpacing_of_isDigit hDigit
    · decide
  have hRead := readNatural?_numeral h
  rw [readInteger?, hTrimmed]
  rcases Text.integerChars_cases n with
    ⟨hChars, hSign⟩ | ⟨hChars, hSign⟩
  · rw [hChars]
    split
    · next cs hHyphen =>
        have hMem : '-' ∈ numeral n.natAbs :=
          hHyphen ▸ List.mem_cons_self
        exact absurd (Text.isDigit_of_mem_numeral hMem)
          (by decide)
    · next cs hPlus =>
        have hMem : '+' ∈ numeral n.natAbs :=
          hPlus ▸ List.mem_cons_self
        exact absurd (Text.isDigit_of_mem_numeral hMem)
          (by decide)
    · rw [hRead]
      exact congrArg some (Int.natAbs_of_nonneg hSign)
  · have hNegated : -(n.natAbs : Int) = n := by omega
    simp only [hChars, hRead]
    exact congrArg some hNegated

end CommandLine

------------------------------------------------------------
-- Negative Numbers
------------------------------------------------------------

/- A hyphen and a numeral look like a negative number. -/
theorem Spelling.isNegative_numeral (n : Nat) :
    isNegative ('-' :: Text.numeral n) = true := by
  have hDigits : ∀ c ∈ Text.numeral n,
      Text.isAnyDigit c = true := fun _ hc =>
    Text.isAnyDigit_of_isDigit (Text.isDigit_of_mem_numeral hc)
  have hBreak :
      withoutBreak (Text.numeral n) = Text.numeral n := by
    refine if_neg fun hLast => ?_
    have hMem := List.mem_of_getLast? hLast
    exact absurd (Text.isDigit_of_mem_numeral hMem) (by decide)
  have hRest :
      (Text.numeral n).dropWhile Text.isAnyDigit = [] :=
    List.dropWhile_eq_nil_iff.mpr hDigits
  rw [isNegative, hBreak, isUnsigned, hRest]
  simp only [isDigits, Bool.and_eq_true, Bool.not_eq_true',
    List.isEmpty_eq_false_iff, List.all_eq_true]
  exact ⟨Text.numeral_ne_nil n, hDigits⟩

end Termwise
