import Termwise.Json.Mark
import Termwise.Proofs.Text.Numeral
import Termwise.Proofs.Text.Run

/-
  An integer that was written is scanned as that integer, if
  nothing follows that would continue it.

  Key definitions include:
    * `Json.continuesNumber`
    * `Json.EndsNumber`

  Main declarations:
    * `Json.scanUnsigned?_numeral`
    * `Json.scanNumber?_integerChars`
-/

namespace Termwise

namespace Json

/- A character continues the digits of a number. -/
def continuesNumber (c : Char) : Bool :=
  Text.isDigit c || c == '.' || c == 'e' || c == 'E'

/- A text does not continue a number in front of it. -/
abbrev EndsNumber (rest : List Char) : Prop :=
  EndsRun continuesNumber rest

namespace EndsNumber

variable {rest : List Char} (h : EndsNumber rest)

include h

/- The digits end. -/
theorem endsDigits : EndsRun Text.isDigit rest := by
  intro c hc
  have hNone := h c hc
  simp only [continuesNumber, Bool.or_eq_false_iff] at hNone
  exact hNone.1.1.1

/- There is no fraction. -/
theorem scanFraction_eq : scanFraction rest = ([], rest) := by
  cases rest with
  | nil => rfl
  | cons c rest =>
      have hNone := h c rfl
      simp only [continuesNumber, Bool.or_eq_false_iff,
        beq_eq_false_iff_ne] at hNone
      rw [scanFraction]
      intro cs hSame
      exact hNone.1.1.2 (List.cons.inj hSame).1

/- There is no exponent. -/
theorem scanExponent_eq : scanExponent rest = (0, rest) := by
  cases rest with
  | nil => rfl
  | cons c rest =>
      have hNone := h c rfl
      simp only [continuesNumber, Bool.or_eq_false_iff,
        beq_eq_false_iff_ne] at hNone
      have hOther : ¬ (c = 'e' ∨ c = 'E') :=
        not_or.mpr ⟨hNone.1.2, hNone.2⟩
      have hScan :
          Scientific.scanExponent? (c :: rest) =
            some (0, c :: rest) :=
        if_neg hOther
      rw [scanExponent, hScan]
      rfl

/- A numeral is all of the digits before a point. -/
theorem scanWhole?_numeral (n : Nat) :
    scanWhole? (Text.numeral n ++ rest) =
      some (Text.numeral n, rest) := by
  have hDigits : ∀ c ∈ Text.numeral n, Text.isDigit c = true :=
    fun c hc => Text.isDigit_of_mem_numeral hc
  cases hNumeral : Text.numeral n with
  | nil => exact absurd hNumeral (Text.numeral_ne_nil n)
  | cons c digits =>
      rw [hNumeral, List.forall_mem_cons] at hDigits
      rw [List.cons_append, scanWhole?]
      by_cases hZero : c = '0'
      · rw [hZero] at hNumeral
        rw [if_pos hZero, Text.eq_nil_of_numeral_eq hNumeral,
          hZero]
        rfl
      · rw [if_neg hZero, if_pos hDigits.1,
          takeWhile_run hDigits.2 h.endsDigits,
          dropWhile_run hDigits.2 h.endsDigits]

/- A numeral is scanned as its number, after any sign. -/
theorem scanUnsigned?_numeral
    {rule : LengthRule}
    {n : Nat}
    (hLength :
      rule.refuses (Text.numeral n).length true = false)
    (negative : Bool) :
    scanUnsigned? rule negative (Text.numeral n ++ rest) =
      some
        (.atom (.int (if negative then -(n : Int) else n)),
          rest) := by
  rw [scanUnsigned?, h.scanWhole?_numeral]
  simp only [h.scanFraction_eq, h.scanExponent_eq,
    Text.numeralValue_numeral, decide_true, hLength]
  rfl

/- An integer that was written is scanned as it was. -/
theorem scanNumber?_integerChars
    {rule : LengthRule}
    {n : Int}
    (hLength :
      rule.refuses (Text.numeral n.natAbs).length true =
        false) :
    scanNumber? rule (Text.integerChars n ++ rest) =
      some (.atom (.int n), rest) := by
  cases n with
  | negSucc n =>
      exact h.scanUnsigned?_numeral (n := n + 1) hLength true
  | ofNat n =>
      have hScan := h.scanUnsigned?_numeral (n := n) hLength
        false
      have hSign : ∀ cs,
          Text.numeral n ++ rest = '-' :: cs → False := by
        intro cs hSame
        cases hNumeral : Text.numeral n with
        | nil => exact Text.numeral_ne_nil n hNumeral
        | cons c digits =>
            have hMem : c ∈ Text.numeral n := by
              rw [hNumeral]
              exact List.mem_cons_self
            have hDigit := Text.isDigit_of_mem_numeral hMem
            rw [hNumeral, List.cons_append] at hSame
            rw [(List.cons.inj hSame).1] at hDigit
            exact absurd hDigit (by decide)
      show scanNumber? rule (Text.numeral n ++ rest) = _
      rw [scanNumber?, hScan]
      · rfl
      · exact hSign

end EndsNumber

end Json

end Termwise
