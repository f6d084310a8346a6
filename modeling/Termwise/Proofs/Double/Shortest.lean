import Mathlib.Algebra.Order.Floor.Semifield
import Mathlib.Data.Nat.Cast.Order.Field
import Mathlib.Data.Rat.Floor
import Termwise.Double.Shortest
import Termwise.Proofs.Double.Rounding
import Termwise.Proofs.Text.Numeral

/-
  The shortest decimal of a double reads back as the double.
  It lies in the interval of the numbers that round to it,
  and one of the decimals with seventeen digits around a
  double always does.

  Key definitions include:
    * `Double.below`
    * `Double.RoundsBack`

  Main declarations:
    * `Double.contains_iff`
    * `Double.ofQuotient_of_roundsBack`
    * `Double.nearest?_ne_none`
    * `Double.roundsBack_shortest`
-/

namespace Termwise

namespace Double

------------------------------------------------------------
-- The Interval of a Double
------------------------------------------------------------

/-
  How far the interval of a double reaches down, in quarters
  of the gap above it.
-/
def below (m : ℕ) (e : ℤ) : ℕ :=
  if m = twoTo 52 ∧ e ≠ -1074 then 1 else 2

/-
  A number rounds to a mantissa and an exponent.  The ends of
  the interval do so if the mantissa is even.
-/
def RoundsBack (m : ℕ) (e : ℤ) (x : ℚ) : Prop :=
  if m % 2 = 0 then
    ((m : ℚ) - below m e / 4) * 2 ^ e ≤ x ∧
      x ≤ ((m : ℚ) + 1 / 2) * 2 ^ e
  else
    ((m : ℚ) - below m e / 4) * 2 ^ e < x ∧
      x < ((m : ℚ) + 1 / 2) * 2 ^ e

/- The gap below a double is half of the one above at least. -/
theorem below_cases
    (m : ℕ)
    (e : ℤ) :
    (below m e = 1 ∧ m = 2 ^ 52 ∧ e ≠ -1074) ∨
      (below m e = 2 ∧ ¬ (m = 2 ^ 52 ∧ e ≠ -1074)) := by
  have hPower : twoTo 52 = 2 ^ 52 := rfl
  rw [below, hPower]
  by_cases hFirst : m = 2 ^ 52 ∧ e ≠ -1074
  · exact .inl ⟨if_pos hFirst, hFirst⟩
  · exact .inr ⟨if_neg hFirst, hFirst⟩

/- So it is one or two quarters of the gap above. -/
theorem below_bounds
    (m : ℕ)
    (e : ℤ) :
    (1 : ℚ) ≤ below m e ∧ (below m e : ℚ) ≤ 2 := by
  rcases below_cases m e with ⟨hOne, _⟩ | ⟨hTwo, _⟩
  · rw [hOne]
    norm_num
  · rw [hTwo]
    norm_num

/- A denominator is not zero. -/
theorem den_span_pos
    (m : ℕ)
    (e : ℤ) :
    0 < (span m e).den := by
  cases e with
  | ofNat e => exact Nat.zero_lt_succ 3
  | negSucc e =>
      exact Nat.mul_pos (Nat.zero_lt_succ 3)
        (Nat.two_pow_pos (e + 1))

/- A number of quarters of the gap, over the denominator. -/
theorem scaled_div_den
    (m n : ℕ)
    (e : ℤ) :
    (((match e with
        | .ofNat e => n * twoTo e
        | .negSucc _ => n : ℕ) : ℚ)) / (span m e).den =
      (n : ℚ) / 4 * 2 ^ e := by
  cases e with
  | ofNat e =>
      show ((n * twoTo e : ℕ) : ℚ) / (4 : ℕ) = _
      rw [Nat.cast_mul, cast_twoTo, mul_div_right_comm,
        Nat.cast_ofNat]
      rfl
  | negSucc e =>
      show (n : ℚ) / (4 * twoTo (e + 1) : ℕ) = _
      rw [Nat.cast_mul, cast_twoTo, zpow_negSucc, ← div_div,
        div_eq_mul_inv _ ((2 : ℚ) ^ (e + 1))]
      exact_mod_cast rfl

/- The lower end of the interval. -/
theorem low_div_den
    {m : ℕ}
    (hm : 0 < m)
    (e : ℤ) :
    ((span m e).low : ℚ) / (span m e).den =
      ((m : ℚ) - below m e / 4) * 2 ^ e := by
  have hFour : below m e ≤ 4 * m := by
    have hTwo : below m e ≤ 2 := by
      exact_mod_cast (below_bounds m e).2
    omega
  have hLow := scaled_div_den m (4 * m - below m e) e
  rw [Nat.cast_sub hFour, Nat.cast_mul] at hLow
  refine hLow.trans ?_
  push_cast
  ring

/- The double itself. -/
theorem value_div_den
    (m : ℕ)
    (e : ℤ) :
    ((span m e).value : ℚ) / (span m e).den =
      (m : ℚ) * 2 ^ e := by
  have hValue := scaled_div_den m (4 * m) e
  rw [Nat.cast_mul] at hValue
  refine hValue.trans ?_
  push_cast
  ring

/- The upper end of the interval. -/
theorem high_div_den
    (m : ℕ)
    (e : ℤ) :
    ((span m e).high : ℚ) / (span m e).den =
      ((m : ℚ) + 1 / 2) * 2 ^ e := by
  have hHigh := scaled_div_den m (4 * m + 2) e
  rw [Nat.cast_add, Nat.cast_mul] at hHigh
  refine hHigh.trans ?_
  push_cast
  ring

/- The interval holds the numbers that round to the double. -/
theorem contains_iff
    {m : ℕ}
    (hm : 0 < m)
    (e : ℤ)
    (num : ℕ)
    {den : ℕ}
    (hDen : 0 < den) :
    (span m e).contains num den = true ↔
      RoundsBack m e ((num : ℚ) / den) := by
  have hPos : (0 : ℚ) < den := by exact_mod_cast hDen
  have hSpan : (0 : ℚ) < (span m e).den := by
    exact_mod_cast den_span_pos m e
  have hClosed : (span m e).closed = decide (m % 2 = 0) := rfl
  rw [RoundsBack, ← low_div_den hm, ← high_div_den,
    Span.contains, hClosed]
  by_cases hEven : m % 2 = 0
  · simp only [hEven, decide_true, if_true, Bool.and_eq_true,
      decide_eq_true_eq, div_le_div_iff₀ hSpan hPos,
      div_le_div_iff₀ hPos hSpan]
    norm_cast
  · simp only [hEven, decide_false, if_false, Bool.and_eq_true,
      decide_eq_true_eq, div_lt_div_iff₀ hSpan hPos,
      div_lt_div_iff₀ hPos hSpan, Bool.false_eq_true]
    norm_cast

------------------------------------------------------------
-- Rounding Back
------------------------------------------------------------

namespace RoundsBack

variable {m : ℕ} {e : ℤ} {x : ℚ} (h : RoundsBack m e x)

include h

/- A number of the interval is not below its lower end. -/
theorem low_le : ((m : ℚ) - below m e / 4) * 2 ^ e ≤ x := by
  unfold RoundsBack at h
  split at h
  · exact h.1
  · exact h.1.le

/- It is not above its upper end. -/
theorem le_high : x ≤ ((m : ℚ) + 1 / 2) * 2 ^ e := by
  unfold RoundsBack at h
  split at h
  · exact h.2
  · exact h.2.le

/- In units of the gap it is rounded to the mantissa. -/
theorem roundsTo : RoundsTo (x / 2 ^ e) m := by
  have hPos : (0 : ℚ) < 2 ^ e := zpow_pos two_pos e
  have hHalf := (below_bounds m e).2
  unfold RoundsBack at h
  split at h
  · rename_i hEven
    refine RoundsTo.of_even ?_ hEven
    have hLow := (le_div_iff₀ hPos).mpr h.1
    have hHigh := (div_le_iff₀ hPos).mpr h.2
    rw [abs_le]
    constructor
    · linarith
    · linarith
  · refine RoundsTo.of_lt ?_
    have hLow := (lt_div_iff₀ hPos).mpr h.1
    have hHigh := (div_lt_iff₀ hPos).mpr h.2
    rw [abs_lt]
    constructor
    · linarith
    · linarith

/- It is positive as the double is. -/
theorem pos (hm : 0 < m) : 0 < x := by
  have hPos : (0 : ℚ) < 2 ^ e := zpow_pos two_pos e
  have hOne : (1 : ℚ) ≤ m := by exact_mod_cast hm
  have hHalf := (below_bounds m e).2
  exact lt_of_lt_of_le (mul_pos (by linarith) hPos) h.low_le

/-
  Unless it is below the binade of the double, its last place
  is that of the double.
-/
theorem placed
    (hLess : m < 2 ^ 53)
    (hLeast : -1074 ≤ e)
    (hReached : e ≠ -1074 → 2 ^ 52 * 2 ^ e ≤ x) :
    Placed x e := by
  have hPos : (0 : ℚ) < 2 ^ e := zpow_pos two_pos e
  have hCast : (m : ℚ) + 1 ≤ 2 ^ 53 := by exact_mod_cast hLess
  have hHigh := h.le_high
  refine ⟨hLeast, ?_, hReached⟩
  refine hHigh.trans_lt ?_
  exact mul_lt_mul_of_pos_right (by linarith) hPos

/- Below the binade there is room at a power of two only. -/
theorem eq_of_under
    (hFull : 2 ^ 52 ≤ m)
    (hNotLeast : e ≠ -1074)
    (hUnder : x < 2 ^ 52 * 2 ^ e) :
    m = 2 ^ 52 ∧ below m e = 1 := by
  have hPos : (0 : ℚ) < 2 ^ e := zpow_pos two_pos e
  have hEnd : (m : ℚ) - below m e / 4 < 2 ^ 52 :=
    lt_of_mul_lt_mul_right (h.low_le.trans_lt hUnder) hPos.le
  rcases below_cases m e with
    ⟨hOne, hPower, _⟩ | ⟨hTwo, hOther⟩
  · exact ⟨hPower, hOne⟩
  · have hDistinct : m ≠ 2 ^ 52 := fun hPower =>
      hOther ⟨hPower, hNotLeast⟩
    have hMore : 2 ^ 52 + 1 ≤ m := by omega
    have hCast : (2 : ℚ) ^ 52 + 1 ≤ m := by exact_mod_cast hMore
    rw [hTwo] at hEnd
    push_cast at hEnd
    linarith

/-
  There it is rounded up in a last place that is half as
  great.
-/
theorem carried
    (hFull : 2 ^ 52 ≤ m)
    (hLeast : -1074 ≤ e)
    (hNotLeast : e ≠ -1074)
    (hUnder : x < 2 ^ 52 * 2 ^ e) :
    Placed x (e - 1) ∧ RoundsTo (x / 2 ^ (e - 1)) (2 ^ 53) := by
  rcases h.eq_of_under hFull hNotLeast hUnder with ⟨rfl, hOne⟩
  have hUnit : (2 : ℚ) ^ e = 2 ^ (e - 1) * 2 := by
    rw [← zpow_add_one₀ two_ne_zero, sub_add_cancel]
  have hPos : (0 : ℚ) < 2 ^ (e - 1) := zpow_pos two_pos _
  have hLow := h.low_le
  rw [hOne, hUnit] at hLow
  rw [hUnit] at hUnder
  push_cast at hLow
  constructor
  · refine ⟨by omega, by linarith, fun _ => ?_⟩
    linarith
  · have hNear : (2 : ℚ) ^ 53 - 1 / 2 ≤ x / 2 ^ (e - 1) := by
      rw [le_div_iff₀ hPos]
      linarith
    have hBelow : x / 2 ^ (e - 1) < 2 ^ 53 := by
      rw [div_lt_iff₀ hPos]
      linarith
    refine RoundsTo.of_even ?_ (by decide)
    rw [abs_le]
    push_cast
    constructor
    · linarith
    · linarith

end RoundsBack

/-
  A quotient of the interval is shown as the double.  Below a
  power of two it lies in the binade below, from where it is
  carried over.
-/
theorem ofQuotient_of_roundsBack
    {negative : Bool}
    {m : ℕ}
    {e : ℤ}
    (hDouble : (finite negative m e).Representable)
    (hm : 0 < m)
    {num den : ℕ}
    (hDen : 0 < den)
    (h : RoundsBack m e ((num : ℚ) / den)) :
    ofQuotient negative num den = finite negative m e := by
  rcases hDouble with
    ⟨hMantissa, hNormal, hLeast, hGreatest⟩
  have hLess : m < 2 ^ 53 := hMantissa
  have hNum : num ≠ 0 := by
    intro hZero
    have hSome := h.pos hm
    rw [hZero, Nat.cast_zero, zero_div] at hSome
    exact lt_irrefl _ hSome
  by_cases hReached :
      e ≠ -1074 → 2 ^ 52 * 2 ^ e ≤ (num : ℚ) / den
  · have hPlaced := h.placed hLess hLeast hReached
    rw [ofQuotient_eq negative hNum hDen hPlaced h.roundsTo,
      if_neg hLess.ne, if_neg (by omega)]
  · rcases Classical.not_imp.mp hReached with
      ⟨hNotLeast, hUnder⟩
    have hFull : 2 ^ 52 ≤ m := hNormal.resolve_right hNotLeast
    rcases h.carried hFull hLeast hNotLeast
        (not_le.mp hUnder) with
      ⟨hPlaced, hRounds⟩
    have hPower := (h.eq_of_under hFull hNotLeast
      (not_le.mp hUnder)).1
    rw [ofQuotient_eq negative hNum hDen hPlaced hRounds,
      if_pos rfl, sub_add_cancel, if_neg (by omega), hPower]

------------------------------------------------------------
-- Decimals
------------------------------------------------------------

/- A power of ten as a rational number. -/
theorem cast_tenTo (n : ℕ) :
    ((tenTo n : ℕ) : ℚ) = 10 ^ n := by
  have hPow : tenTo n = 10 ^ n := rfl
  rw [hPow]
  push_cast
  rfl

namespace Decimal

/- The denominator of a decimal is not zero. -/
theorem den_pos (d : Decimal) : 0 < d.den := by
  rcases d with ⟨units, exponent⟩
  cases exponent with
  | ofNat e => exact Nat.one_pos
  | negSucc e => exact Nat.pow_pos (by decide)

/- The value of a decimal. -/
theorem num_div_den (d : Decimal) :
    (d.num : ℚ) / d.den = d.units * 10 ^ d.exponent := by
  rcases d with ⟨units, exponent⟩
  cases exponent with
  | ofNat e =>
      show ((units * tenTo e : ℕ) : ℚ) / (1 : ℕ) = _
      rw [Nat.cast_mul, cast_tenTo, Nat.cast_one, div_one]
      rfl
  | negSucc e =>
      show (units : ℚ) / (tenTo (e + 1) : ℕ) = _
      rw [cast_tenTo, div_eq_mul_inv]
      rfl

end Decimal

/- A quotient without its rest is less than one too small. -/
theorem natDiv_bounds (a b : ℕ) :
    ((a / b : ℕ) : ℚ) ≤ (a : ℚ) / b ∧
      (a : ℚ) / b < ((a / b : ℕ) : ℚ) + 1 := by
  refine ⟨Nat.cast_div_le, ?_⟩
  have hFloor := Nat.lt_floor_add_one ((a : ℚ) / b)
  rw [Nat.floor_div_eq_div] at hFloor
  exact hFloor

/- The units below a quotient do not exceed it, but one more. -/
theorem unitsBelow_bounds
    (num den : ℕ)
    (e : ℤ) :
    (unitsBelow num den e : ℚ) * 10 ^ e ≤ (num : ℚ) / den ∧
      (num : ℚ) / den <
        ((unitsBelow num den e : ℚ) + 1) * 10 ^ e := by
  have hPos : (0 : ℚ) < 10 ^ e := zpow_pos (by norm_num) e
  rw [← le_div_iff₀ hPos, ← div_lt_iff₀ hPos]
  cases e with
  | ofNat e =>
      have hBounds := natDiv_bounds num (den * tenTo e)
      rw [Nat.cast_mul, cast_tenTo, ← div_div] at hBounds
      exact hBounds
  | negSucc e =>
      have hBounds := natDiv_bounds (num * tenTo (e + 1)) den
      rw [Nat.cast_mul, cast_tenTo, mul_div_right_comm]
        at hBounds
      rw [zpow_negSucc, div_inv_eq_mul]
      exact hBounds

/- The first digit of a numeral counts a power of ten. -/
theorem pow_length_pred_le
    {n : ℕ}
    (hn : 0 < n) :
    (10 : ℚ) ^ ((Text.numeral n).length - 1) ≤ n := by
  rw [← cast_tenTo]
  exact_mod_cast Text.tenTo_length_pred_le hn

/- A double reaches the decade that it is found to be in. -/
theorem zpow_decade_le
    {num den : ℕ}
    (hNum : 0 < num)
    (hDen : 0 < den) :
    (10 : ℚ) ^ decade num den ≤ (num : ℚ) / den := by
  have hPos : (0 : ℚ) < den := by exact_mod_cast hDen
  rw [decade]
  split
  · next hWhole =>
    have hFirst := pow_length_pred_le (Nat.div_pos hWhole hDen)
    have hSome := List.length_pos_of_ne_nil
      (Text.numeral_ne_nil (num / den))
    rw [← Nat.cast_pred hSome, zpow_natCast]
    exact hFirst.trans (natDiv_bounds num den).1
  · next hPart =>
    have hSome := List.length_pos_of_ne_nil
      (Text.numeral_ne_nil (den / num))
    dsimp only
    rw [le_div_iff₀ hPos]
    split
    · next hReached =>
      rw [← neg_sub, ← Nat.cast_pred hSome, zpow_neg,
        zpow_natCast, ← cast_tenTo, inv_mul_le_iff₀ ?_,
        mul_comm]
      · exact_mod_cast hReached
      · rw [cast_tenTo]
        positivity
    · next hUnder =>
      have hLess := (Nat.div_lt_iff_lt_mul hNum).mp
        (Text.lt_tenTo_length (den / num))
      rw [zpow_neg, zpow_natCast, ← cast_tenTo,
        inv_mul_le_iff₀ ?_]
      · exact_mod_cast hLess.le
      · rw [cast_tenTo]
        positivity

------------------------------------------------------------
-- The Search
------------------------------------------------------------

namespace Span

/- A decimal that is found lies in the interval. -/
theorem contains_of_nearest?
    {s : Span}
    {e : ℤ}
    {d : Decimal}
    (h : s.nearest? e = some d) :
    s.contains d.num d.den = true := by
  rw [nearest?] at h
  dsimp only at h
  split at h
  · cases h
  · next hLower hUpper =>
    cases h
    exact hLower
  · next hLower hUpper =>
    cases h
    exact hUpper
  · next hLower hUpper =>
    split at h
    · cases h
      exact hLower
    · split at h
      · cases h
        exact hUpper
      · split at h
        · cases h
          exact hLower
        · cases h
          exact hUpper

/- So does the one that a search ends with. -/
theorem contains_of_search
    {s : Span}
    {tries : ℕ}
    {e : ℤ}
    {d : Decimal}
    (h : s.search tries e = some d) :
    s.contains d.num d.den = true := by
  induction tries generalizing e with
  | zero => cases h
  | succ tries ih =>
      rw [search] at h
      split at h
      · next hFound =>
        cases h
        exact contains_of_nearest? hFound
      · exact ih h

/- A search ends where there is a decimal to be found. -/
theorem exists_search
    {s : Span}
    {e : ℤ}
    {k tries : ℕ}
    (hTries : k < tries)
    (h : s.nearest? (e - k) ≠ none) :
    ∃ d, s.search tries e = some d := by
  induction tries generalizing e k with
  | zero => exact absurd hTries (Nat.not_lt_zero k)
  | succ tries ih =>
      rw [search]
      split
      · next d hFound => exact ⟨d, rfl⟩
      · next hNone =>
        cases k with
        | zero =>
            rw [Nat.cast_zero, sub_zero] at h
            exact absurd hNone h
        | succ k =>
            refine ih (Nat.lt_of_succ_lt_succ hTries) ?_
            rw [sub_sub, add_comm 1, ← Nat.cast_succ]
            exact h

/- Nothing is found only if both neighbours are outside. -/
theorem nearest?_eq_none
    {s : Span}
    {e : ℤ}
    (h : s.nearest? e = none) :
    let units := unitsBelow s.value s.den e
    ¬ s.contains (Decimal.num ⟨units, e⟩)
        (Decimal.den ⟨units, e⟩) = true ∧
      ¬ s.contains (Decimal.num ⟨units + 1, e⟩)
        (Decimal.den ⟨units + 1, e⟩) = true := by
  rw [nearest?] at h
  dsimp only at h
  split at h
  · next hLower hUpper =>
    exact ⟨Bool.eq_false_iff.mp hLower,
      Bool.eq_false_iff.mp hUpper⟩
  · cases h
  · cases h
  · split at h
    · cases h
    · split at h
      · cases h
      · split at h
        · cases h
        · cases h

end Span

/- A number that is inside the interval rounds back. -/
theorem RoundsBack.of_lt
    {m : ℕ}
    {e : ℤ}
    {x : ℚ}
    (hLow : ((m : ℚ) - below m e / 4) * 2 ^ e < x)
    (hHigh : x < ((m : ℚ) + 1 / 2) * 2 ^ e) :
    RoundsBack m e x := by
  unfold RoundsBack
  split
  · exact ⟨hLow.le, hHigh.le⟩
  · exact ⟨hLow, hHigh⟩

/-
  The interval is wider than the last of seventeen digits
  counts, so that one of the neighbours lies in it.
-/
theorem nearest?_ne_none
    {m : ℕ}
    {e E : ℤ}
    (hm : 0 < m)
    (hLess : m < 2 ^ 53)
    (hFine : (10 : ℚ) ^ 16 * 10 ^ E ≤ m * 2 ^ e) :
    (span m e).nearest? E ≠ none := by
  intro hNone
  rcases Span.nearest?_eq_none hNone with ⟨hLower, hUpper⟩
  rw [contains_iff hm e _ (Decimal.den_pos _),
    Decimal.num_div_den] at hLower hUpper
  rcases unitsBelow_bounds (span m e).value (span m e).den E
    with ⟨hUnits, hMore⟩
  rw [value_div_den] at hUnits hMore
  generalize unitsBelow (span m e).value (span m e).den E = n
    at hLower hUpper hUnits hMore
  push_cast at hUpper
  have hPos : (0 : ℚ) < 2 ^ e := zpow_pos two_pos e
  have hCast : (m : ℚ) + 1 ≤ 2 ^ 53 := by exact_mod_cast hLess
  have hGap : 0 < (below m e : ℚ) * 2 ^ e :=
    mul_pos (by linarith [(below_bounds m e).1]) hPos
  have hFirst : (n : ℚ) * 10 ^ E ≤
      ((m : ℚ) - below m e / 4) * 2 ^ e := by
    by_contra hInside
    exact hLower (.of_lt (not_le.mp hInside) (by linarith))
  have hLast : ((m : ℚ) + 1 / 2) * 2 ^ e ≤
      ((n : ℚ) + 1) * 10 ^ E := by
    by_contra hInside
    exact hUpper (.of_lt (by linarith) (not_le.mp hInside))
  -- Both neighbours outside leave a gap of one unit.
  have hWide : (1 / 2 + (below m e : ℚ) / 4) * 2 ^ e ≤
      10 ^ E := by
    linarith
  rcases below_cases m e with ⟨hOne, hPower, _⟩ | ⟨hTwo, _⟩
  · rw [hOne] at hWide
    rw [hPower] at hFine
    push_cast at hWide hFine
    linarith
  · rw [hTwo] at hWide
    push_cast at hWide
    have hTop : (m : ℚ) * 2 ^ e ≤ 2 ^ 53 * 2 ^ e :=
      mul_le_mul_of_nonneg_right (by linarith) hPos.le
    linarith

/- The shortest decimal of a double rounds to it. -/
theorem roundsBack_shortest
    {m : ℕ}
    (hm : 0 < m)
    (hLess : m < 2 ^ 53)
    (e : ℤ) :
    RoundsBack m e
      ((shortest m e).units * 10 ^ (shortest m e).exponent) := by
  have hPos : (0 : ℚ) < (span m e).value / (span m e).den := by
    rw [value_div_den]
    exact mul_pos (by exact_mod_cast hm) (zpow_pos two_pos e)
  have hValue : 0 < (span m e).value := by
    refine Nat.pos_of_ne_zero fun hZero => ?_
    rw [hZero, Nat.cast_zero, zero_div] at hPos
    exact lt_irrefl _ hPos
  have hDecade := zpow_decade_le hValue (den_span_pos m e)
  have hFine : (10 : ℚ) ^ 16 *
      10 ^ (decade (span m e).value (span m e).den - (16 : ℕ)) ≤
        m * 2 ^ e := by
    rw [← value_div_den, ← zpow_natCast,
      ← zpow_add₀ (by norm_num), add_sub_cancel]
    exact hDecade
  have hTries : 16 < 17 := by decide
  rcases Span.exists_search hTries
      (nearest?_ne_none hm hLess hFine) with
    ⟨d, hFound⟩
  have hShortest : shortest m e = d := by
    rw [shortest, hFound]
  rw [hShortest, ← Decimal.num_div_den,
    ← contains_iff hm e _ d.den_pos]
  exact Span.contains_of_search hFound

end Double

end Termwise
