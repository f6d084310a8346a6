import Mathlib.Algebra.Order.Field.Power
import Mathlib.Algebra.Order.Field.Rat
import Mathlib.Tactic.FieldSimp
import Mathlib.Tactic.Linarith
import Mathlib.Tactic.Positivity
import Mathlib.Tactic.Ring
import Termwise.Double.Order

/-
  A positive quotient is rounded to the number of the
  binary64 format that is nearest to it.

  Key definitions include:
    * `RoundsTo`
    * `Double.lastPlace`
    * `Double.Rounded`

  Main declarations:
    * `RoundsTo.nearest`, `RoundsTo.unique`
    * `RoundsTo.even_le_iff`
    * `Double.binade_le`, `Double.lt_binade`
    * `Double.ofQuotient_eq`
    * `Double.exists_rounded`
-/

namespace Termwise

------------------------------------------------------------
-- Rounding to Natural Numbers
------------------------------------------------------------

/-
  A natural number is nearest to a rational one, and even if
  there is another one that is as near.
-/
structure RoundsTo (x : ℚ) (n : ℕ) : Prop where
  near : |x - n| ≤ 1 / 2
  even : |x - n| = 1 / 2 → n % 2 = 0

namespace RoundsTo

variable {x : ℚ} {n : ℕ}

/- Rounding by less than half a unit is no tie. -/
theorem of_lt (h : |x - n| < 1 / 2) : RoundsTo x n where
  near := h.le
  even := fun hTie => absurd hTie h.ne

/- An even number may be half a unit away. -/
theorem of_even
    (h : |x - n| ≤ 1 / 2)
    (hEven : n % 2 = 0) :
    RoundsTo x n where
  near := h
  even := fun _ => hEven

/- What is less than half a unit is rounded off. -/
theorem down
    {r : ℚ}
    (hNonneg : 0 ≤ r)
    (h : r < 1 / 2) :
    RoundsTo (n + r) n := by
  apply of_lt
  rw [add_sub_cancel_left, abs_of_nonneg hNonneg]
  exact h

/- What is more than half a unit is rounded to a whole one. -/
theorem up
    {r : ℚ}
    (hLess : r < 1)
    (h : 1 / 2 < r) :
    RoundsTo (n + r) (n + 1) := by
  apply of_lt
  rw [Nat.cast_add_one, abs_lt]
  constructor
  · linarith
  · linarith

/- Half a unit is rounded to the even one of its neighbours. -/
theorem tie :
    RoundsTo (n + 1 / 2) (if n % 2 = 0 then n else n + 1) := by
  by_cases hEven : n % 2 = 0
  · rw [if_pos hEven]
    refine of_even ?_ hEven
    rw [add_sub_cancel_left]
    exact (abs_of_pos one_half_pos).le
  · rw [if_neg hEven]
    refine of_even ?_ (by omega)
    rw [Nat.cast_add_one, abs_le]
    constructor
    · linarith
    · linarith

/- Two natural numbers are one apart at least. -/
theorem one_le_abs_sub
    {k : ℕ}
    (h : k ≠ n) :
    (1 : ℚ) ≤ |(k : ℚ) - n| := by
  have hDistinct : (k : ℤ) - n ≠ 0 := by omega
  have hInt : 1 ≤ |(k : ℤ) - n| :=
    Int.one_le_abs hDistinct
  exact_mod_cast hInt

/- Neither are they further apart than over a third number. -/
theorem abs_sub_le_add_abs_sub
    (x : ℚ)
    (k n : ℕ) :
    |(k : ℚ) - n| ≤ |x - k| + |x - n| := by
  rw [abs_sub_comm x k]
  exact abs_sub_le (k : ℚ) x n

/- No natural number is nearer. -/
theorem nearest
    (h : RoundsTo x n)
    (k : ℕ) :
    |x - n| ≤ |x - k| := by
  by_cases hSame : k = n
  · rw [hSame]
  · have hApart := one_le_abs_sub hSame
    have hTriangle := abs_sub_le_add_abs_sub x k n
    have hNear := h.near
    linarith

/- No other natural number is one that is rounded to. -/
theorem unique
    {k : ℕ}
    (h : RoundsTo x n)
    (hOther : RoundsTo x k) :
    k = n := by
  by_contra hDistinct
  have hApart := one_le_abs_sub hDistinct
  have hTriangle := abs_sub_le_add_abs_sub x k n
  have hNear := h.near
  have hNear₂ := hOther.near
  -- Both are half a unit away, and so both of them are even.
  have hEven := h.even (by linarith)
  have hEven₂ := hOther.even (by linarith)
  have hOne : |(k : ℤ) - n| = 1 := by
    have hCast : |(k : ℚ) - n| = 1 := by linarith
    exact_mod_cast hCast
  rcases (abs_eq one_pos.le).mp hOne with hMore | hLess
  · omega
  · omega

/- Nothing is rounded up beyond the next natural number. -/
theorem le_of_lt
    (h : RoundsTo x n)
    {k : ℕ}
    (hLess : x < k) :
    n ≤ k := by
  have hNear := abs_le.mp h.near
  have hCast : (n : ℚ) < (k + 1 : ℕ) := by
    push_cast
    linarith
  exact Nat.lt_succ_iff.mp (by exact_mod_cast hCast)

/-
  An even number is reached by rounding half a unit before
  it is reached.
-/
theorem even_le_iff
    (h : RoundsTo x n)
    {k : ℕ}
    (hEven : k % 2 = 0) :
    k ≤ n ↔ (k : ℚ) - 1 / 2 ≤ x := by
  have hNear := abs_le.mp h.near
  constructor
  · intro hLe
    have hCast : (k : ℚ) ≤ n := by exact_mod_cast hLe
    linarith
  · intro hReached
    by_contra hBelow
    have hCast : (n : ℚ) + 1 ≤ k := by
      exact_mod_cast Nat.not_le.mp hBelow
    have hTie : x - n = 1 / 2 := by linarith
    have hSucc : (k : ℚ) = n + 1 := by linarith
    have hNat : k = n + 1 := by exact_mod_cast hSucc
    have hOther : n % 2 = 0 := by
      apply h.even
      rw [hTie]
      norm_num
    omega

end RoundsTo

namespace Double

------------------------------------------------------------
-- Powers of Two
------------------------------------------------------------

/- A power of two as a rational number. -/
theorem cast_twoTo (n : ℕ) :
    ((twoTo n : ℕ) : ℚ) = 2 ^ n := by
  have hPow : twoTo n = 2 ^ n := rfl
  rw [hPow]
  push_cast
  rfl

/- The value of a mantissa and an exponent. -/
theorem magnitude_eq (m : ℕ) (e : ℤ) :
    magnitude m e = m * (2 : ℚ) ^ e := by
  cases e with
  | ofNat e =>
      rw [magnitude, Nat.cast_mul, cast_twoTo]
      rfl
  | negSucc e =>
      rw [magnitude, Rat.mkRat_eq_div, cast_twoTo,
        zpow_negSucc, div_eq_mul_inv]
      rfl

/- A greater exponent makes a unit twice as great at least. -/
theorem zpow_mul_two_le
    {e f : ℤ}
    (h : e < f) :
    (2 : ℚ) ^ e * 2 ≤ 2 ^ f := by
  rw [← zpow_add_one₀ two_ne_zero]
  exact zpow_le_zpow_right₀ one_le_two h

/- A greater exponent is the same as a greater mantissa. -/
theorem exists_natCast_zpow
    (k : ℕ)
    {e f : ℤ}
    (h : e ≤ f) :
    ∃ j : ℕ, (k : ℚ) * 2 ^ f = j * 2 ^ e := by
  rcases Int.le.dest h with ⟨d, hExponent⟩
  refine ⟨k * 2 ^ d, ?_⟩
  rw [← hExponent, add_comm e, zpow_add₀ two_ne_zero]
  push_cast
  rw [zpow_natCast, mul_assoc]

/-
  What is not rounded to a finite double begins half a last
  place below `2 ^ 1024`.
-/
theorem limit_eq :
    (2 : ℚ) ^ 1024 - 2 ^ 970 =
      (2 ^ 53 - 1 / 2) * 2 ^ (971 : ℤ) := by
  have hPower : (2 : ℚ) ^ (971 : ℤ) = 2 ^ 970 * 2 := by
    rw [← pow_succ]
    exact zpow_natCast 2 971
  have hLimit : (2 : ℚ) ^ 1024 = 2 ^ 54 * 2 ^ 970 := by
    rw [← pow_add]
  rw [hPower, hLimit]
  generalize (2 : ℚ) ^ 970 = half
  ring

/- That is far above zero. -/
theorem limit_pos : (0 : ℚ) < 2 ^ 1024 - 2 ^ 970 := by
  rw [limit_eq]
  exact mul_pos (by norm_num) (zpow_pos two_pos 971)

------------------------------------------------------------
-- Rounding Quotients
------------------------------------------------------------

/- A quotient is rounded to the nearest natural number. -/
theorem roundsTo_roundDiv
    (num : ℕ)
    {den : ℕ}
    (hDen : 0 < den) :
    RoundsTo ((num : ℚ) / den) (roundDiv num den) := by
  have hPos : (0 : ℚ) < den := by exact_mod_cast hDen
  have hSplit :
      (num : ℚ) / den =
        (num / den : ℕ) + ((num % den : ℕ) : ℚ) / den := by
    rw [div_eq_iff hPos.ne', add_mul, div_mul_cancel₀ _ hPos.ne']
    exact_mod_cast (Nat.div_add_mod' num den).symm
  unfold roundDiv
  dsimp only
  rw [hSplit]
  split
  · rename_i hLow
    refine RoundsTo.down (by positivity) ?_
    rw [div_lt_div_iff₀ hPos two_pos, one_mul, mul_comm]
    exact_mod_cast hLow
  · rename_i hLow
    split
    · rename_i hHigh
      refine RoundsTo.up ?_ ?_
      · rw [div_lt_one hPos]
        exact_mod_cast Nat.mod_lt num hDen
      · rw [div_lt_div_iff₀ two_pos hPos, one_mul, mul_comm]
        exact_mod_cast hHigh
    · rename_i hHigh
      have hMiddle :
          ((num % den : ℕ) : ℚ) / den = 1 / 2 := by
        have hTie : 2 * (num % den) = den := by omega
        rw [div_eq_div_iff hPos.ne' two_ne_zero, one_mul,
          mul_comm]
        exact_mod_cast hTie
      rw [hMiddle]
      exact RoundsTo.tie

/- So is a quotient in units of a power of two. -/
theorem roundsTo_roundScaled
    (num : ℕ)
    {den : ℕ}
    (hDen : 0 < den)
    (e : ℤ) :
    RoundsTo ((num : ℚ) / den / 2 ^ e)
      (roundScaled num den e) := by
  cases e with
  | ofNat e =>
      have hUnitPos : 0 < den * twoTo e :=
        Nat.mul_pos hDen (Nat.two_pow_pos e)
      have hScaled := roundsTo_roundDiv num hUnitPos
      rw [Nat.cast_mul, cast_twoTo, ← div_div] at hScaled
      exact hScaled
  | negSucc e =>
      have hScaled :=
        roundsTo_roundDiv (num * twoTo (e + 1)) hDen
      rw [Nat.cast_mul, cast_twoTo, mul_div_right_comm]
        at hScaled
      rw [zpow_negSucc, div_inv_eq_mul]
      exact hScaled

------------------------------------------------------------
-- Binades
------------------------------------------------------------

section Binades

variable {num den : ℕ} (hNum : num ≠ 0) (hDen : 0 < den)

/- A quotient is compared with a power of two. -/
theorem reaches_iff
    (num : ℕ)
    {den : ℕ}
    (hDen : 0 < den)
    (e : ℤ) :
    reaches num den e = true ↔
      (2 : ℚ) ^ e ≤ (num : ℚ) / den := by
  have hPos : (0 : ℚ) < den := by exact_mod_cast hDen
  cases e with
  | ofNat e =>
      rw [reaches, decide_eq_true_eq, le_div_iff₀ hPos,
        ← Nat.cast_le (α := ℚ), Nat.cast_mul, cast_twoTo,
        mul_comm]
      rfl
  | negSucc e =>
      rw [reaches, decide_eq_true_eq, zpow_negSucc,
        le_div_iff₀ hPos, inv_mul_le_iff₀ (by positivity),
        ← Nat.cast_le (α := ℚ), Nat.cast_mul, cast_twoTo,
        mul_comm]

include hNum hDen

/- The lengths of both parts nearly tell the binade. -/
theorem between_log2 :
    (2 : ℚ) ^ ((num.log2 : ℤ) - den.log2 - 1) <
        (num : ℚ) / den ∧
      (num : ℚ) / den <
        2 ^ ((num.log2 : ℤ) - den.log2 + 1) := by
  have hPos : (0 : ℚ) < den := by exact_mod_cast hDen
  have hNumLow : (2 : ℚ) ^ num.log2 ≤ num := by
    exact_mod_cast Nat.log2_self_le hNum
  have hNumHigh : (num : ℚ) < 2 ^ (num.log2 + 1) := by
    exact_mod_cast Nat.lt_log2_self
  have hDenLow : (2 : ℚ) ^ den.log2 ≤ den := by
    exact_mod_cast Nat.log2_self_le hDen.ne'
  have hDenHigh : (den : ℚ) < 2 ^ (den.log2 + 1) := by
    exact_mod_cast Nat.lt_log2_self
  have hLow :
      (2 : ℚ) ^ ((num.log2 : ℤ) - den.log2 - 1) =
        2 ^ num.log2 / 2 ^ (den.log2 + 1) := by
    rw [sub_sub, zpow_sub₀ two_ne_zero, zpow_natCast]
    exact_mod_cast rfl
  have hHigh :
      (2 : ℚ) ^ ((num.log2 : ℤ) - den.log2 + 1) =
        2 ^ (num.log2 + 1) / 2 ^ den.log2 := by
    rw [sub_add_eq_add_sub, zpow_sub₀ two_ne_zero,
      zpow_natCast]
    exact_mod_cast rfl
  constructor
  · rw [hLow, div_lt_div_iff₀ (by positivity) hPos]
    exact mul_lt_mul' hNumLow hDenHigh hPos.le
      (lt_of_lt_of_le (by positivity) hNumLow)
  · rw [hHigh, div_lt_div_iff₀ hPos (by positivity)]
    exact mul_lt_mul hNumHigh hDenLow (by positivity)
      (by positivity)

/- A quotient reaches its binade. -/
theorem binade_le :
    (2 : ℚ) ^ binade num den ≤ (num : ℚ) / den := by
  have hBetween := between_log2 hNum hDen
  unfold binade
  dsimp only
  split
  · rename_i hReaches
    exact (reaches_iff num hDen _).mp hReaches
  · exact hBetween.1.le

/- It does not reach the next one. -/
theorem lt_binade :
    (num : ℚ) / den < 2 ^ (binade num den + 1) := by
  have hBetween := between_log2 hNum hDen
  unfold binade
  dsimp only
  split
  · exact hBetween.2
  · rename_i hReaches
    rw [reaches_iff num hDen, not_le] at hReaches
    rw [sub_add_cancel]
    exact hReaches

end Binades

------------------------------------------------------------
-- The Last Place
------------------------------------------------------------

/-
  A positive number is rounded to multiples of `2 ^ e`: it is
  less than `2 ^ 53` of them, and not less than `2 ^ 52`
  unless the exponent is the least one.
-/
structure Placed (x : ℚ) (e : ℤ) : Prop where
  least : -1074 ≤ e
  below : x < 2 ^ 53 * 2 ^ e
  above : e ≠ -1074 → 2 ^ 52 * 2 ^ e ≤ x

/- The exponent of the last place of a quotient. -/
def lastPlace (num den : ℕ) : ℤ :=
  max (binade num den - 52) (-1074)

/- The last place belongs to the binade of the quotient. -/
theorem placed_lastPlace
    {num den : ℕ}
    (hNum : num ≠ 0)
    (hDen : 0 < den) :
    Placed ((num : ℚ) / den) (lastPlace num den) where
  least := le_max_right _ _
  below := by
    have hExponent :
        binade num den + 1 ≤ 53 + lastPlace num den := by
      unfold lastPlace
      omega
    have hPower :
        (2 : ℚ) ^ (binade num den + 1) ≤
          2 ^ (53 + lastPlace num den) :=
      zpow_le_zpow_right₀ one_le_two hExponent
    rw [zpow_add₀ two_ne_zero 53] at hPower
    exact (lt_binade hNum hDen).trans_le hPower
  above := by
    intro hGreater
    have hExponent :
        52 + lastPlace num den = binade num den := by
      unfold lastPlace at hGreater ⊢
      omega
    have hReached := binade_le hNum hDen
    rw [← hExponent, zpow_add₀ two_ne_zero] at hReached
    exact hReached

namespace Placed

variable {x : ℚ} {e : ℤ} {n : ℕ}

/- The last place of a number is no further to the left. -/
theorem exponent_le
    {f : ℤ}
    (h : Placed x e)
    (hOther : Placed x f) :
    f ≤ e := by
  by_contra hLess
  have hLeast := h.least
  have hReached := hOther.above (by omega)
  have hBelow := h.below
  have hPower : (2 : ℚ) ^ e * 2 ≤ 2 ^ f :=
    zpow_mul_two_le (not_le.mp hLess)
  linarith

/- So there is only one. -/
theorem unique
    {f : ℤ}
    (h : Placed x e)
    (hOther : Placed x f) :
    f = e :=
  le_antisymm (h.exponent_le hOther) (hOther.exponent_le h)

variable (h : Placed x e) (hRounds : RoundsTo (x / 2 ^ e) n)

/- Distances are measured in units of the last place. -/
theorem abs_sub_eq
    (x : ℚ)
    (e : ℤ)
    (k : ℕ) :
    |x - k * 2 ^ e| = |x / 2 ^ e - k| * 2 ^ e := by
  have hPos : (0 : ℚ) < 2 ^ e := zpow_pos two_pos e
  have hUnits : x - k * 2 ^ e = (x / 2 ^ e - k) * 2 ^ e := by
    rw [sub_mul, div_mul_cancel₀ _ hPos.ne']
  rw [hUnits, abs_mul, abs_of_pos hPos]

include hRounds

/- No multiple of the last place is nearer. -/
theorem nearest_multiple (k : ℕ) :
    |x - n * 2 ^ e| ≤ |x - k * 2 ^ e| := by
  rw [abs_sub_eq, abs_sub_eq]
  exact mul_le_mul_of_nonneg_right (hRounds.nearest k)
    (zpow_pos two_pos e).le

/- An even mantissa is reached half a last place before. -/
theorem even_le_iff
    {k : ℕ}
    (hEven : k % 2 = 0) :
    k ≤ n ↔ ((k : ℚ) - 1 / 2) * 2 ^ e ≤ x := by
  rw [hRounds.even_le_iff hEven,
    le_div_iff₀ (zpow_pos two_pos e)]

include h

/-
  No number of the format is nearer.  One with a lesser
  exponent is not a multiple of the last place, but then it
  lies below the binade, and the binade begins with such a
  multiple.
-/
theorem nearest
    {k : ℕ}
    {f : ℤ}
    (hMantissa : k < 2 ^ 53)
    (hExponent : -1074 ≤ f) :
    |x - n * 2 ^ e| ≤ |x - k * 2 ^ f| := by
  by_cases hCoarser : e ≤ f
  · rcases exists_natCast_zpow k hCoarser with ⟨j, hSame⟩
    rw [hSame]
    exact nearest_multiple hRounds j
  · have hReached : 2 ^ 52 * 2 ^ e ≤ x := h.above (by omega)
    have hBelow : (k : ℚ) * 2 ^ f ≤ 2 ^ 52 * 2 ^ e := by
      have hCast : (k : ℚ) ≤ 2 ^ 53 := by
        exact_mod_cast hMantissa.le
      have hFiner : (2 : ℚ) ^ f * 2 ≤ 2 ^ e :=
        zpow_mul_two_le (not_le.mp hCoarser)
      calc (k : ℚ) * 2 ^ f
          ≤ 2 ^ 53 * 2 ^ f :=
            mul_le_mul_of_nonneg_right hCast (by positivity)
        _ = 2 ^ 52 * (2 ^ f * 2) := by ring
        _ ≤ 2 ^ 52 * 2 ^ e :=
            mul_le_mul_of_nonneg_left hFiner (by positivity)
    have hStart := nearest_multiple hRounds (2 ^ 52)
    rw [Nat.cast_pow, Nat.cast_ofNat,
      abs_of_nonneg (sub_nonneg.mpr hReached)] at hStart
    rw [abs_of_nonneg (sub_nonneg.mpr (hBelow.trans hReached))]
    linarith

/- The mantissa has 53 bits, or it is carried over. -/
theorem mantissa_le : n ≤ 2 ^ 53 := by
  apply hRounds.le_of_lt
  rw [div_lt_iff₀ (zpow_pos two_pos e)]
  exact_mod_cast h.below

/- It does not have fewer bits without need. -/
theorem le_mantissa : 2 ^ 52 ≤ n ∨ e = -1074 := by
  by_cases hLeast : e = -1074
  · exact .inr hLeast
  · refine .inl ((even_le_iff hRounds (by decide)).mpr ?_)
    have hReached := h.above hLeast
    have hPos : (0 : ℚ) < 2 ^ e := zpow_pos two_pos e
    push_cast
    linarith

/-
  The exponent is too great, or becomes so by a carry, from
  half a last place below `2 ^ 1024` on.
-/
theorem overflow_iff :
    971 < e ∨ (e = 971 ∧ n = 2 ^ 53) ↔
      (2 : ℚ) ^ 1024 - 2 ^ 970 ≤ x := by
  rw [limit_eq]
  rcases lt_trichotomy e 971 with hLess | rfl | hGreater
  · have hBelow := h.below
    have hPower : (2 : ℚ) ^ e * 2 ≤ 2 ^ (971 : ℤ) :=
      zpow_mul_two_le hLess
    have hPos : (0 : ℚ) < 2 ^ (971 : ℤ) := zpow_pos two_pos 971
    refine iff_of_false (by omega) (not_le.mpr ?_)
    generalize (2 : ℚ) ^ (971 : ℤ) = unit at hPower hPos ⊢
    linarith
  · have hCarried : n = 2 ^ 53 ↔ 2 ^ 53 ≤ n :=
      ⟨fun hn => hn.ge, (mantissa_le h hRounds).antisymm⟩
    have hReached := even_le_iff (k := 2 ^ 53) hRounds (by decide)
    rw [Nat.cast_pow, Nat.cast_ofNat] at hReached
    rw [← hReached, ← hCarried]
    omega
  · have hReached := h.above (by omega)
    have hPower : (2 : ℚ) ^ (971 : ℤ) * 2 ≤ 2 ^ e :=
      zpow_mul_two_le hGreater
    have hPos : (0 : ℚ) < 2 ^ (971 : ℤ) := zpow_pos two_pos 971
    refine iff_of_true (.inl hGreater) ?_
    generalize (2 : ℚ) ^ (971 : ℤ) = unit at hPower hPos ⊢
    linarith

end Placed

------------------------------------------------------------
-- Rounded Quotients
------------------------------------------------------------

/-
  A number is rounded to a mantissa and an exponent.  They
  belong to the format but for the greatest exponent, which
  is exceeded from half a last place below `2 ^ 1024` on, and
  no double of the format is nearer.
-/
structure Rounded (x : ℚ) (m : ℕ) (e : ℤ) : Prop where
  mantissa : m < twoTo 53
  normal : twoTo 52 ≤ m ∨ e = -1074
  exponent : -1074 ≤ e
  nearest : ∀ (k : ℕ) (f : ℤ), k < twoTo 53 → -1074 ≤ f →
    |x - m * 2 ^ e| ≤ |x - k * 2 ^ f|
  overflow : 971 < e ↔ (2 : ℚ) ^ 1024 - 2 ^ 970 ≤ x

/- Zero is rounded to itself. -/
theorem rounded_zero : Rounded 0 0 (-1074) where
  mantissa := Nat.two_pow_pos 53
  normal := .inr rfl
  exponent := le_refl _
  nearest := by
    intro k f _ _
    rw [Nat.cast_zero, zero_mul, sub_zero, abs_zero]
    exact abs_nonneg _
  overflow := iff_of_false (by decide) (not_le.mpr limit_pos)

section Places

variable {x : ℚ} {e : ℤ} {n : ℕ}

/- Rounding keeps to 53 bits. -/
theorem Placed.rounded
    (h : Placed x e)
    (hRounds : RoundsTo (x / 2 ^ e) n)
    (hKept : n ≠ 2 ^ 53) :
    Rounded x n e where
  mantissa := (h.mantissa_le hRounds).lt_of_ne hKept
  normal := h.le_mantissa hRounds
  exponent := h.least
  nearest := fun _ _ => h.nearest hRounds
  overflow := by
    rw [← h.overflow_iff hRounds]
    exact (or_iff_left fun hCarry => hKept hCarry.2).symm

/- Or else it is carried into the next binade. -/
theorem Placed.rounded_carry
    (h : Placed x e)
    (hRounds : RoundsTo (x / 2 ^ e) (2 ^ 53)) :
    Rounded x (2 ^ 52) (e + 1) where
  mantissa := Nat.pow_lt_pow_right one_lt_two (by decide)
  normal := .inl (Nat.le_refl _)
  exponent := h.least.trans (Int.le_add_one (Int.le_refl e))
  nearest := by
    intro k f hMantissa hExponent
    have hSame :
        ((2 ^ 52 : ℕ) : ℚ) * 2 ^ (e + 1) =
          ((2 ^ 53 : ℕ) : ℚ) * 2 ^ e := by
      rw [zpow_add_one₀ two_ne_zero]
      push_cast
      ring
    rw [hSame]
    exact h.nearest hRounds hMantissa hExponent
  overflow := by
    rw [← h.overflow_iff hRounds]
    omega

end Places

section Quotients

variable (negative : Bool) {num den : ℕ}

variable (hNum : num ≠ 0) (hDen : 0 < den)

include hNum hDen

/-
  A positive quotient is shown as the double of the mantissa
  that it is rounded to in its last place.  A mantissa that
  is carried over has its bits in the next binade, and too
  great an exponent makes an infinity.
-/
theorem ofQuotient_eq
    {e : ℤ}
    {n : ℕ}
    (hPlaced : Placed ((num : ℚ) / den) e)
    (hRounds : RoundsTo ((num : ℚ) / den / 2 ^ e) n) :
    ofQuotient negative num den =
      if n = 2 ^ 53 then
        if 971 < e + 1 then infinite negative
        else finite negative (2 ^ 52) (e + 1)
      else if 971 < e then infinite negative
      else finite negative n e := by
  have hPlace : max (binade num den - 52) (-1074) = e :=
    hPlaced.unique (placed_lastPlace hNum hDen)
  have hMantissa : roundScaled num den e = n :=
    hRounds.unique (roundsTo_roundScaled num hDen e)
  have hCarry : twoTo 53 = 2 ^ 53 := rfl
  rw [ofQuotient, if_neg hNum]
  simp only [hPlace, hMantissa, hCarry]
  split
  · rfl
  · rfl

/-
  So it is rounded to a number of the format, or it is shown
  as an infinity.
-/
theorem exists_rounded :
    ∃ m e, Rounded ((num : ℚ) / den) m e ∧
      ofQuotient negative num den =
        if 971 < e then infinite negative
        else finite negative m e := by
  have hPlaced := placed_lastPlace hNum hDen
  have hRounds :=
    roundsTo_roundScaled num hDen (lastPlace num den)
  have hDouble :=
    ofQuotient_eq negative hNum hDen hPlaced hRounds
  by_cases hCarry :
      roundScaled num den (lastPlace num den) = 2 ^ 53
  · rw [if_pos hCarry] at hDouble
    rw [hCarry] at hRounds
    exact ⟨_, _, hPlaced.rounded_carry hRounds, hDouble⟩
  · rw [if_neg hCarry] at hDouble
    exact ⟨_, _, hPlaced.rounded hRounds hCarry, hDouble⟩

end Quotients

end Double

end Termwise
