import Termwise.Proofs.Double.Rounding
import Termwise.Proofs.Equivalence.Strict

/-
  Every rational number is shown as the double nearest to
  it, or as an infinity of its sign if it is beyond the
  range, and the doubles that are shown stand in the order of
  the numbers.

  Main declarations:
    * `Double.ofRat_cases`
    * `Double.ofRat_nearest`
    * `Double.ofRat_mono`
    * `Double.ofRat_saturates`
-/

namespace Termwise

namespace Double

------------------------------------------------------------
-- Rounding with a Sign
------------------------------------------------------------

/- The size of a rational number. -/
theorem abs_eq_div (q : ℚ) :
    |q| = (q.num.natAbs : ℚ) / q.den := by
  calc |q| = |(q.num : ℚ) / q.den| := by
        rw [Rat.num_div_den]
    _ = (q.num.natAbs : ℚ) / q.den := by
        rw [abs_div, Nat.abs_cast, Nat.cast_natAbs,
          Int.cast_abs]

/- The size of the value of a finite double. -/
theorem abs_of_toRat?
    {negative : Bool}
    {m : ℕ}
    {e : ℤ}
    {v : ℚ}
    (h : (finite negative m e).toRat? = some v) :
    |v| = m * 2 ^ e := by
  have hValue :
      (if negative then -magnitude m e else magnitude m e) =
        v :=
    Option.some.inj h
  rw [magnitude_eq] at hValue
  have hNonneg : (0 : ℚ) ≤ m * 2 ^ e := by positivity
  rw [← hValue]
  split
  · rw [abs_neg, abs_of_nonneg hNonneg]
  · exact abs_of_nonneg hNonneg

/- A finite double with the sign of a number is as far away. -/
theorem abs_sub_of_toRat?
    {q v : ℚ}
    {m : ℕ}
    {e : ℤ}
    (h : (finite (decide (q < 0)) m e).toRat? = some v) :
    |q - v| = |(|q| - m * 2 ^ e)| := by
  have hValue :
      (if decide (q < 0) then -magnitude m e
        else magnitude m e) = v :=
    Option.some.inj h
  rw [magnitude_eq] at hValue
  rw [← hValue]
  by_cases hNegative : q < 0
  · rw [decide_eq_true hNegative, if_pos rfl,
      abs_of_neg hNegative, ← abs_neg]
    ring_nf
  · rw [decide_eq_false hNegative, if_neg Bool.false_ne_true,
      abs_of_nonneg (not_lt.mp hNegative)]

/-
  A number is shown as a finite double that it is rounded to,
  or as an infinity.
-/
theorem ofRat_cases (q : ℚ) :
    (∃ m e, ofRat q = finite (decide (q < 0)) m e ∧
      e ≤ 971 ∧ Rounded |q| m e) ∨
    (ofRat q = infinite (decide (q < 0)) ∧
      (2 : ℚ) ^ 1024 - 2 ^ 970 ≤ |q|) := by
  have hSign : decide (q.num < 0) = decide (q < 0) :=
    decide_eq_decide.mpr Rat.num_neg
  by_cases hZero : q = 0
  · subst hZero
    refine .inl ⟨0, -1074, rfl, by decide, ?_⟩
    rw [abs_zero]
    exact rounded_zero
  · have hNum : q.num.natAbs ≠ 0 := by
      rw [Int.natAbs_ne_zero, Rat.num_ne_zero]
      exact hZero
    rcases exists_rounded (decide (q.num < 0)) hNum q.den_pos
      with ⟨m, e, hRounded, hDouble⟩
    rw [← abs_eq_div] at hRounded
    rw [ofRat, hDouble, hSign]
    by_cases hOver : 971 < e
    · rw [if_pos hOver]
      exact .inr ⟨rfl, hRounded.overflow.mp hOver⟩
    · rw [if_neg hOver]
      exact .inl ⟨m, e, rfl, not_lt.mp hOver, hRounded⟩

------------------------------------------------------------
-- The Nearest Double
------------------------------------------------------------

/- No finite double is nearer than the one that is shown. -/
theorem ofRat_nearest
    {q v w : ℚ}
    {d : Double}
    (hDouble : d.Representable)
    (hShown : (ofRat q).toRat? = some v)
    (hOther : d.toRat? = some w) :
    |q - v| ≤ |q - w| := by
  rcases ofRat_cases q with
    ⟨m, e, hFinite, _, hRounded⟩ | ⟨hInfinite, _⟩
  · rw [hFinite] at hShown
    cases d with
    | nan | infinite => cases hOther
    | finite negative k f =>
        rcases hDouble with ⟨hMantissa, _, hExponent, _⟩
        calc |q - v|
            = |(|q| - m * 2 ^ e)| := abs_sub_of_toRat? hShown
          _ ≤ |(|q| - k * 2 ^ f)| :=
              hRounded.nearest k f hMantissa hExponent
          _ = |(|q| - |w|)| := by rw [abs_of_toRat? hOther]
          _ ≤ |q - w| := abs_abs_sub_abs_le q w
  · rw [hInfinite] at hShown
    cases hShown

/- What is shown is a double of the format. -/
theorem representable_ofRat (q : ℚ) :
    (ofRat q).Representable := by
  rcases ofRat_cases q with
    ⟨m, e, hFinite, hExponent, hRounded⟩ | ⟨hInfinite, _⟩
  · rw [hFinite]
    exact ⟨hRounded.mantissa, hRounded.normal,
      hRounded.exponent, hExponent⟩
  · rw [hInfinite]
    trivial

------------------------------------------------------------
-- The Order of What Is Shown
------------------------------------------------------------

/-
  Two numbers that are each no nearer to the value of the
  other than to their own have values in their order.
-/
theorem le_of_nearer
    {p q v w : ℚ}
    (hLess : p < q)
    (hFirst : |p - v| ≤ |p - w|)
    (hSecond : |q - w| ≤ |q - v|) :
    v ≤ w := by
  by_contra hBelow
  have hApart : 0 < (q - p) * (v - w) :=
    mul_pos (sub_pos.mpr hLess) (sub_pos.mpr (not_le.mp hBelow))
  have hFirstSquares := sq_le_sq.mpr hFirst
  have hSecondSquares := sq_le_sq.mpr hSecond
  linarith

/- What has a value is finite. -/
theorem isFinite_of_toRat?
    {d : Double}
    {v : ℚ}
    (h : d.toRat? = some v) :
    d.isFinite = true := by
  cases d with
  | finite => rfl
  | nan | infinite => cases h

section Ranges

variable {q : ℚ}

/- A number within the range is shown as a finite double. -/
theorem exists_toRat?_ofRat
    (h : |q| < 2 ^ 1024 - 2 ^ 970) :
    ∃ v, (ofRat q).toRat? = some v := by
  rcases ofRat_cases q with
    ⟨m, e, hFinite, _, _⟩ | ⟨_, hOver⟩
  · rw [hFinite]
    exact ⟨_, rfl⟩
  · exact absurd hOver (not_le.mpr h)

/- A number beyond the range is shown as an infinity. -/
theorem ofRat_eq_infinite
    (h : (2 : ℚ) ^ 1024 - 2 ^ 970 ≤ |q|) :
    ofRat q = infinite (decide (q < 0)) := by
  rcases ofRat_cases q with
    ⟨m, e, _, hExponent, hRounded⟩ | ⟨hInfinite, _⟩
  · exact absurd (hRounded.overflow.mpr h) (not_lt.mpr hExponent)
  · exact hInfinite

/- What is shown is a number. -/
theorem ofRat_ne_nan (q : ℚ) : ofRat q ≠ nan := by
  rcases ofRat_cases q with
    ⟨m, e, hFinite, _, _⟩ | ⟨hInfinite, _⟩
  · rw [hFinite]
    exact Double.noConfusion
  · rw [hInfinite]
    exact Double.noConfusion

end Ranges

/- Greater numbers are not shown as lesser doubles. -/
theorem ofRat_mono
    {p q : ℚ}
    (h : p ≤ q) :
    (ofRat p).AtMost (ofRat q) := by
  by_cases hLow : p ≤ -(2 ^ 1024 - 2 ^ 970)
  · have hNegative : p < 0 :=
      hLow.trans_lt (neg_lt_zero.mpr limit_pos)
    have hBeyond : (2 : ℚ) ^ 1024 - 2 ^ 970 ≤ |p| :=
      le_abs.mpr (.inr (le_neg.mp hLow))
    rw [ofRat_eq_infinite hBeyond, decide_eq_true hNegative]
    exact .inl ⟨rfl, ofRat_ne_nan q⟩
  · by_cases hHigh : 2 ^ 1024 - 2 ^ 970 ≤ q
    · have hPositive : ¬ q < 0 :=
        not_lt.mpr (limit_pos.le.trans hHigh)
      have hBeyond : (2 : ℚ) ^ 1024 - 2 ^ 970 ≤ |q| :=
        le_abs.mpr (.inl hHigh)
      rw [ofRat_eq_infinite hBeyond, decide_eq_false hPositive]
      exact .inr (.inl ⟨ofRat_ne_nan p, rfl⟩)
    · have hAbove := not_le.mp hLow
      have hBelow := not_le.mp hHigh
      rcases exists_toRat?_ofRat
          (abs_lt.mpr ⟨hAbove, h.trans_lt hBelow⟩) with
        ⟨v, hFirst⟩
      rcases exists_toRat?_ofRat
          (abs_lt.mpr ⟨hAbove.trans_le h, hBelow⟩) with
        ⟨w, hSecond⟩
      refine .inr (.inr ⟨v, w, hFirst, hSecond, ?_⟩)
      rcases h.eq_or_lt with rfl | hLess
      · rw [hFirst] at hSecond
        exact (Option.some.inj hSecond).le
      · exact le_of_nearer hLess
          (ofRat_nearest (representable_ofRat q) hFirst hSecond)
          (ofRat_nearest (representable_ofRat p) hSecond hFirst)

/-
  Every rational number is shown as a double of the format.
  The double is finite just if the number is less than half a
  last place below `2 ^ 1024` in size, and otherwise it is
  the infinity with the sign of the number.  The doubles of
  two numbers have the order of the numbers.
-/
theorem ofRat_saturates :
    (∀ q : ℚ,
      Strict.toDouble q = .ok (ofRat q) ∧
      (ofRat q).Representable ∧
      ((ofRat q).isFinite = true ↔
        |q| < 2 ^ 1024 - 2 ^ 970) ∧
      (ofRat q = infinite (decide (q < 0)) ↔
        (2 : ℚ) ^ 1024 - 2 ^ 970 ≤ |q|)) ∧
    ∀ p q : ℚ, p ≤ q → (ofRat p).AtMost (ofRat q) := by
  refine ⟨?_, fun p q h => ofRat_mono h⟩
  intro q
  refine ⟨Strict.toDouble_eq q, representable_ofRat q, ?_⟩
  by_cases hWithin : |q| < 2 ^ 1024 - 2 ^ 970
  · rcases exists_toRat?_ofRat hWithin with ⟨v, hValue⟩
    have hFinite := isFinite_of_toRat? hValue
    refine ⟨iff_of_true hFinite hWithin,
      iff_of_false ?_ (not_le.mpr hWithin)⟩
    intro hInfinite
    rw [hInfinite] at hFinite
    exact Bool.false_ne_true hFinite
  · have hInfinite := ofRat_eq_infinite (not_lt.mp hWithin)
    refine ⟨iff_of_false ?_ hWithin,
      iff_of_true hInfinite (not_lt.mp hWithin)⟩
    rw [hInfinite]
    exact Bool.false_ne_true

/-
  The number half a last place below `2 ^ 1024` is in the
  middle between the greatest finite double and the next
  power of two, and the even mantissa is that of the power.
  The number before it is shown as the greatest double.
-/
theorem ofRat_saturates_limit :
    let limit := twoTo 1024 - twoTo 970
    ofRat (limit - 1 : ℕ) = finite false (twoTo 53 - 1) 971 ∧
      ofRat limit = infinite false ∧
      (ofRat (limit - 1 : ℕ)).AtMost (ofRat limit) := by
  intro limit
  have hLe : ((limit - 1 : ℕ) : ℚ) ≤ limit :=
    Nat.cast_le.mpr (Nat.sub_le limit 1)
  exact ⟨by decide +kernel, by decide +kernel,
    ofRat_saturates.2 _ _ hLe⟩

end Double

end Termwise
