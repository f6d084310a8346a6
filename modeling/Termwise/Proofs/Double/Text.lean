import Termwise.Double.Read
import Termwise.Proofs.Double.Shortest
import Termwise.Proofs.Text.Run

/-
  The text of a double is read back as the double.  Its
  digits are those of a decimal that rounds to the double,
  and no layout of them changes what number they are.

  Key definitions include:
    * `Scientific.value`
    * `Scans`

  Main declarations:
    * `Double.ofDecimal_of_roundsBack`
    * `Scans.layout`
    * `Double.exists_scans_magnitudeChars`
    * `Double.read?_text`
    * `Double.notMem_text`
-/

namespace Termwise

------------------------------------------------------------
-- Decimals That Round to a Double
------------------------------------------------------------

namespace Double

section Range

variable {m : ℕ} {e : ℤ} {x : ℚ} (h : RoundsBack m e x)

include h

/- What rounds to a double is in the range of the format. -/
theorem RoundsBack.lt_limit
    (hLess : m < 2 ^ 53)
    (hGreatest : e ≤ 971) :
    x < 10 ^ (309 : ℤ) := by
  have hCast : (m : ℚ) + 1 ≤ 2 ^ 53 := by exact_mod_cast hLess
  have hPower : (2 : ℚ) ^ e ≤ 2 ^ (971 : ℤ) :=
    zpow_le_zpow_right₀ one_le_two hGreatest
  have hPos : (0 : ℚ) < 2 ^ e := zpow_pos two_pos e
  calc x ≤ ((m : ℚ) + 1 / 2) * 2 ^ e := h.le_high
    _ ≤ 2 ^ 53 * 2 ^ e :=
        mul_le_mul_of_nonneg_right (by linarith) hPos.le
    _ ≤ 2 ^ 53 * 2 ^ (971 : ℤ) :=
        mul_le_mul_of_nonneg_left hPower (by positivity)
    _ < 10 ^ (309 : ℤ) := by
        have hLimit : 2 ^ 53 * 2 ^ 971 < 10 ^ 309 := by
          decide +kernel
        exact_mod_cast hLimit

/- It is not much smaller than the least double. -/
theorem RoundsBack.limit_lt
    (hm : 0 < m)
    (hLeast : -1074 ≤ e) :
    10 ^ (-330 : ℤ) < x := by
  have hCast : (1 : ℚ) ≤ m := by exact_mod_cast hm
  have hPower : (2 : ℚ) ^ (-1074 : ℤ) ≤ 2 ^ e :=
    zpow_le_zpow_right₀ one_le_two hLeast
  have hPos : (0 : ℚ) < 2 ^ e := zpow_pos two_pos e
  have hHalf : (1 / 2 : ℚ) ≤ m - below m e / 4 := by
    linarith [(below_bounds m e).2]
  calc (10 : ℚ) ^ (-330 : ℤ) < 1 / 2 * 2 ^ (-1074 : ℤ) := by
        have hLimit : 2 * 2 ^ 1074 < 10 ^ 330 := by
          decide +kernel
        have hCast : (2 : ℚ) * 2 ^ 1074 < 10 ^ 330 := by
          exact_mod_cast hLimit
        rw [zpow_neg, zpow_neg, one_div, ← mul_inv]
        exact inv_strictAnti₀ (by positivity)
          (by exact_mod_cast hCast)
    _ ≤ 1 / 2 * 2 ^ e :=
        mul_le_mul_of_nonneg_left hPower (by norm_num)
    _ ≤ (m - below m e / 4) * 2 ^ e :=
        mul_le_mul_of_nonneg_right hHalf hPos.le
    _ ≤ x := h.low_le

end Range

/- The digits of a decimal bound its value from both sides. -/
theorem decimal_bounds
    {units : ℕ}
    (hUnits : 0 < units)
    (e : ℤ) :
    (10 : ℚ) ^ ((Text.numeral units).length + e - 1) ≤
        units * 10 ^ e ∧
      units * 10 ^ e <
        (10 : ℚ) ^ ((Text.numeral units).length + e) := by
  have hPos : (0 : ℚ) < 10 ^ e := zpow_pos (by norm_num) e
  have hSome := List.length_pos_of_ne_nil
    (Text.numeral_ne_nil units)
  have hFirst := pow_length_pred_le hUnits
  have hLast : (units : ℚ) <
      10 ^ (Text.numeral units).length := by
    rw [← cast_tenTo]
    exact_mod_cast Text.lt_tenTo_length units
  constructor
  · rw [add_sub_right_comm, zpow_add₀ (by norm_num),
      ← Nat.cast_pred hSome, zpow_natCast]
    exact mul_le_mul_of_nonneg_right hFirst hPos.le
  · rw [zpow_add₀ (by norm_num), zpow_natCast]
    exact mul_lt_mul_of_pos_right hLast hPos

/- A decimal that rounds to a double is read as it. -/
theorem ofDecimal_of_roundsBack
    {negative : Bool}
    {m : ℕ}
    {e : ℤ}
    (hDouble : (finite negative m e).Representable)
    (hm : 0 < m)
    {units : ℕ}
    {exponent : ℤ}
    (h : RoundsBack m e (units * 10 ^ exponent)) :
    ofDecimal negative units exponent =
      finite negative m e := by
  rcases hDouble with ⟨hLess, hNormal, hLeast, hGreatest⟩
  have hUnits : 0 < units := by
    refine Nat.pos_of_ne_zero fun hZero => ?_
    have hSome := h.pos hm
    rw [hZero, Nat.cast_zero, zero_mul] at hSome
    exact lt_irrefl _ hSome
  rcases decimal_bounds hUnits exponent with ⟨hFirst, hLast⟩
  have hSmall := (zpow_lt_zpow_iff_right₀ (by norm_num)).mp
    (hFirst.trans_lt (h.lt_limit hLess hGreatest))
  have hGreat := (zpow_lt_zpow_iff_right₀ (by norm_num)).mp
    ((h.limit_lt hm hLeast).trans hLast)
  have hQuotient : ofQuotient negative
      (Decimal.num ⟨units, exponent⟩)
      (Decimal.den ⟨units, exponent⟩) =
        finite negative m e := by
    refine ofQuotient_of_roundsBack
      ⟨hLess, hNormal, hLeast, hGreatest⟩ hm
      (Decimal.den_pos _) ?_
    rw [Decimal.num_div_den]
    exact h
  unfold ofDecimal
  dsimp only
  rw [if_neg hUnits.ne', if_neg (by omega), if_neg (by omega)]
  cases exponent with
  | ofNat n => exact hQuotient
  | negSucc n => exact hQuotient

end Double

------------------------------------------------------------
-- Scanning Layouts
------------------------------------------------------------

namespace Scientific

/- The value of a number in scientific notation. -/
def value (s : Scientific) : ℚ :=
  (Text.numeralValue (s.whole ++ s.fraction) : ℚ) *
    10 ^ (s.exponent - s.fraction.length)

/- A point is no digit. -/
theorem endsRun_point (rest : List Char) :
    EndsRun Text.isDigit ('.' :: rest) :=
  .cons (by decide) rest

/- At least two digits of an exponent, without its sign. -/
def padded (n : ℕ) : List Char :=
  if (Text.numeral n).length < 2 then '0' :: Text.numeral n
  else Text.numeral n

/- They are digits. -/
theorem isDigit_of_mem_padded
    {n : ℕ}
    {c : Char}
    (hc : c ∈ padded n) :
    Text.isDigit c = true := by
  rw [padded] at hc
  split at hc
  · rcases List.mem_cons.mp hc with rfl | hDigit
    · decide
    · exact Text.isDigit_of_mem_numeral hDigit
  · exact Text.isDigit_of_mem_numeral hc

/- They are written for the exponent. -/
theorem numeralValue_padded (n : ℕ) :
    Text.numeralValue (padded n) = n := by
  rw [padded]
  split
  · exact (Text.numeralValue_zeros_append 1 _).trans
      (Text.numeralValue_numeral n)
  · exact Text.numeralValue_numeral n

/- There is one of them. -/
theorem padded_ne_nil (n : ℕ) : padded n ≠ [] := by
  rw [padded]
  split
  · exact List.cons_ne_nil _ _
  · exact Text.numeral_ne_nil n

/- An exponent is written with a sign and these digits. -/
theorem exponentChars_eq (e : ℤ) :
    Double.exponentChars e =
      'e' :: (if e < 0 then '-' else '+') :: padded e.natAbs :=
  rfl

/- An exponent that is written is scanned. -/
theorem scanExponent?_exponentChars (e : ℤ) :
    scanExponent? (Double.exponentChars e) = some (e, []) := by
  have hDigits : ∀ c ∈ padded e.natAbs,
      Text.isDigit c = true :=
    fun c hc => isDigit_of_mem_padded hc
  have hTake := takeWhile_run hDigits (.nil Text.isDigit)
  have hDrop := dropWhile_run hDigits (.nil Text.isDigit)
  have hEmpty : (padded e.natAbs).isEmpty = false :=
    List.isEmpty_eq_false_iff.mpr (padded_ne_nil _)
  rw [List.append_nil] at hTake hDrop
  rw [exponentChars_eq]
  by_cases hSign : e < 0
  · rw [if_pos hSign, scanExponent?, if_pos (.inl rfl)]
    dsimp only
    rw [hTake, hDrop, hEmpty, if_neg Bool.false_ne_true,
      if_pos rfl, numeralValue_padded,
      Int.ofNat_natAbs_of_nonpos hSign.le, neg_neg]
  · rw [if_neg hSign, scanExponent?, if_pos (.inl rfl)]
    dsimp only
    rw [hTake, hDrop, hEmpty, if_neg Bool.false_ne_true,
      if_neg Bool.false_ne_true, numeralValue_padded,
      Int.natAbs_of_nonneg (not_lt.mp hSign)]

/- No exponent begins with a digit. -/
theorem endsRun_exponentChars (e : ℤ) :
    EndsRun Text.isDigit (Double.exponentChars e) :=
  .cons (by decide) _

/- A number with a point is scanned. -/
theorem scan?_point
    {whole fraction rest : List Char}
    {e : ℤ}
    (hWhole : ∀ c ∈ whole, Text.isDigit c = true)
    (hFraction : ∀ c ∈ fraction, Text.isDigit c = true)
    (hSome : whole ≠ [])
    (hEnds : EndsRun Text.isDigit rest)
    (hRest : scanExponent? rest = some (e, [])) :
    scan? (whole ++ '.' :: (fraction ++ rest)) =
      some ⟨whole, fraction, e⟩ := by
  have hEmpty : whole.isEmpty = false :=
    List.isEmpty_eq_false_iff.mpr hSome
  rw [scan?, takeWhile_run hWhole (endsRun_point _),
    dropWhile_run hWhole (endsRun_point _)]
  simp only [takeWhile_run hFraction hEnds,
    dropWhile_run hFraction hEnds, hEmpty, Bool.false_and,
    Bool.false_eq_true, if_false, hRest]

/- So is one with a point and no exponent. -/
theorem scan?_fraction
    {whole fraction : List Char}
    (hWhole : ∀ c ∈ whole, Text.isDigit c = true)
    (hFraction : ∀ c ∈ fraction, Text.isDigit c = true)
    (hSome : whole ≠ []) :
    scan? (whole ++ '.' :: fraction) =
      some ⟨whole, fraction, 0⟩ := by
  have hScan := scan?_point hWhole hFraction hSome (.nil _) rfl
  rw [List.append_nil] at hScan
  exact hScan

/- So is one with a digit and an exponent. -/
theorem scan?_digit
    {d : Char}
    (hDigit : Text.isDigit d = true)
    (e : ℤ) :
    scan? (d :: Double.exponentChars e) = some ⟨[d], [], e⟩ := by
  have hRun : ∀ c ∈ [d], Text.isDigit c = true := by
    intro c hc
    rw [List.mem_singleton.mp hc]
    exact hDigit
  have hTake := takeWhile_run hRun (endsRun_exponentChars e)
  have hDrop := dropWhile_run hRun (endsRun_exponentChars e)
  have hChars := scanExponent?_exponentChars e
  rw [List.singleton_append] at hTake hDrop
  rw [scan?, hTake, hDrop]
  split
  next fraction rest hParts =>
    split at hParts
    · next hPoint =>
      cases hPoint
    · cases hParts
      rw [List.isEmpty_cons, Bool.false_and,
        if_neg Bool.false_ne_true, hChars]

end Scientific

------------------------------------------------------------
-- Layouts
------------------------------------------------------------

/- A text is scanned as a number of a certain value. -/
def Scans (cs : List Char) (x : ℚ) : Prop :=
  ∃ s, Scientific.scan? cs = some s ∧ s.value = x

namespace Scans

/- A number with a point has the value of its digits. -/
theorem point
    {whole fraction : List Char}
    (hWhole : ∀ c ∈ whole, Text.isDigit c = true)
    (hFraction : ∀ c ∈ fraction, Text.isDigit c = true)
    (hSome : whole ≠ []) :
    Scans (whole ++ '.' :: fraction)
      (Text.numeralValue (whole ++ fraction) *
        10 ^ (-(fraction.length : ℤ))) := by
  refine ⟨_, Scientific.scan?_fraction hWhole hFraction hSome,
    ?_⟩
  rw [Scientific.value, zero_sub]

/- A digit with an exponent. -/
theorem digit
    {d : Char}
    (hDigit : Text.isDigit d = true)
    (top : ℤ) :
    Scans (d :: Double.exponentChars top)
      (Text.numeralValue [d] * 10 ^ top) := by
  refine ⟨_, Scientific.scan?_digit hDigit top, ?_⟩
  rw [Scientific.value, List.append_nil, List.length_nil,
    Nat.cast_zero, sub_zero]

/- Digits with an exponent, and a point behind the first. -/
theorem digitPoint
    {d : Char}
    {rest : List Char}
    (hDigit : Text.isDigit d = true)
    (hRest : ∀ c ∈ rest, Text.isDigit c = true)
    (top : ℤ) :
    Scans (d :: '.' :: rest ++ Double.exponentChars top)
      (Text.numeralValue (d :: rest) *
        10 ^ (top - rest.length)) := by
  have hFront : ∀ c ∈ [d], Text.isDigit c = true := by
    intro c hc
    rw [List.mem_singleton.mp hc]
    exact hDigit
  exact ⟨_, Scientific.scan?_point hFront hRest
    (List.cons_ne_nil _ _)
    (Scientific.endsRun_exponentChars top)
    (Scientific.scanExponent?_exponentChars top), rfl⟩

variable {digits : List Char}
  (hDigits : ∀ c ∈ digits, Text.isDigit c = true)

include hDigits

/- Digits before and behind the point. -/
theorem split
    {n : ℕ}
    (hLong : n + 1 < digits.length) :
    Scans (digits.take (n + 1) ++ '.' :: digits.drop (n + 1))
      (Text.numeralValue digits *
        10 ^ ((n : ℤ) + 1 - digits.length)) := by
  have hWhole : digits.take (n + 1) ≠ [] := by
    refine List.ne_nil_of_length_pos ?_
    rw [List.length_take]
    omega
  have hRest : -((digits.drop (n + 1)).length : ℤ) =
      (n : ℤ) + 1 - digits.length := by
    rw [List.length_drop]
    omega
  have hFront : ∀ c ∈ digits.take (n + 1),
      Text.isDigit c = true :=
    fun c hc => hDigits c (List.mem_of_mem_take hc)
  have hBack : ∀ c ∈ digits.drop (n + 1),
      Text.isDigit c = true :=
    fun c hc => hDigits c (List.mem_of_mem_drop hc)
  have hPoint := point hFront hBack hWhole
  rw [List.take_append_drop, hRest] at hPoint
  exact hPoint

/- Digits with zeros up to the point and one behind it. -/
theorem whole
    {n : ℕ}
    (hSome : digits ≠ [])
    (hShort : digits.length ≤ n + 1) :
    Scans
      (digits ++ List.replicate (n + 1 - digits.length) '0'
        ++ ['.', '0'])
      (Text.numeralValue digits *
        10 ^ ((n : ℤ) + 1 - digits.length)) := by
  have hFront : ∀ c ∈ digits ++
      List.replicate (n + 1 - digits.length) '0',
        Text.isDigit c = true := by
    intro c hc
    rcases List.mem_append.mp hc with hDigit | hZero
    · exact hDigits c hDigit
    · exact Text.isDigit_of_mem_zeros hZero
  have hBack : ∀ c ∈ List.replicate 1 '0',
      Text.isDigit c = true :=
    fun c hc => Text.isDigit_of_mem_zeros hc
  have hPoint := point hFront hBack
    (List.append_ne_nil_of_left_ne_nil hSome _)
  have hValue :
      (Text.numeralValue (digits ++
          List.replicate (n + 1 - digits.length) '0' ++
            List.replicate 1 '0') : ℚ) *
          10 ^ (-((List.replicate 1 '0').length : ℤ)) =
        Text.numeralValue digits *
          10 ^ ((n : ℤ) + 1 - digits.length) := by
    have hCount : (n : ℤ) + 1 - digits.length =
        ((n + 1 - digits.length : ℕ) : ℤ) := by
      omega
    rw [Text.numeralValue_append_zeros,
      Text.numeralValue_append_zeros, hCount, zpow_natCast,
      List.length_replicate, Nat.cast_mul, Nat.cast_mul,
      Double.cast_tenTo, Double.cast_tenTo, pow_one,
      Nat.cast_one, zpow_neg_one, mul_inv_cancel_right₀]
    norm_num
  rw [hValue] at hPoint
  exact hPoint

/- Digits behind a point and some zeros. -/
theorem zeros (n : ℕ) :
    Scans (['0', '.'] ++ List.replicate n '0' ++ digits)
      (Text.numeralValue digits *
        10 ^ (Int.negSucc n + 1 - digits.length)) := by
  have hFront : ∀ c ∈ List.replicate 1 '0',
      Text.isDigit c = true :=
    fun c hc => Text.isDigit_of_mem_zeros hc
  have hBack : ∀ c ∈ List.replicate n '0' ++ digits,
      Text.isDigit c = true := by
    intro c hc
    rcases List.mem_append.mp hc with hZero | hDigit
    · exact Text.isDigit_of_mem_zeros hZero
    · exact hDigits c hDigit
  have hPoint := point hFront hBack (List.cons_ne_nil _ _)
  have hCount :
      -((List.replicate n '0' ++ digits).length : ℤ) =
        Int.negSucc n + 1 - digits.length := by
    rw [List.length_append, List.length_replicate,
      Int.negSucc_eq]
    push_cast
    ring
  rw [Text.numeralValue_zeros_append,
    Text.numeralValue_zeros_append, hCount] at hPoint
  exact hPoint

/-
  In each of its layouts a number has the value of its
  digits.
-/
theorem layout
    (hSome : digits ≠ [])
    (top : ℤ) :
    Scans (Double.layout digits top)
      (Text.numeralValue digits *
        10 ^ (top + 1 - digits.length)) := by
  unfold Double.layout
  by_cases hFull : -4 ≤ top ∧ top < 16
  · rw [if_pos hFull]
    cases top with
    | ofNat n =>
        dsimp only
        by_cases hShort : digits.length ≤ n + 1
        · rw [List.drop_eq_nil_of_le hShort,
            List.take_of_length_le hShort, List.append_assoc]
          exact whole hDigits hSome hShort
        · have hLong : n + 1 < digits.length :=
            Nat.lt_of_not_le hShort
          have hRest : (digits.drop (n + 1)).isEmpty =
              false := by
            rw [List.isEmpty_eq_false_iff, ne_eq,
              List.drop_eq_nil_iff]
            exact hShort
          rw [hRest, Nat.sub_eq_zero_of_le hLong.le,
            List.replicate_zero, List.append_nil,
            List.append_assoc]
          exact split hDigits hLong
    | negSucc n => exact zeros hDigits n
  · rw [if_neg hFull]
    rcases digits with _ | ⟨d, _ | ⟨c, rest⟩⟩
    · exact absurd rfl hSome
    · rw [List.length_singleton, Nat.cast_one,
        add_sub_cancel_right]
      exact digit (hDigits d List.mem_cons_self) top
    · rw [List.length_cons (a := d), Nat.cast_succ,
        add_sub_add_right_eq_sub]
      exact digitPoint (hDigits d List.mem_cons_self)
        (fun x hx => hDigits x (List.mem_cons_of_mem d hx)) top

end Scans

------------------------------------------------------------
-- Texts of Doubles
------------------------------------------------------------

namespace Double

/- Only zeros are cut off the end of some digits. -/
theorem exists_withoutTrailingZeros (digits : List Char) :
    ∃ k, digits =
      withoutTrailingZeros digits ++ List.replicate k '0' := by
  let zeros := digits.reverse.takeWhile (· == '0')
  have hZeros : zeros = List.replicate zeros.length '0' := by
    refine List.eq_replicate_of_mem fun c hc => ?_
    exact beq_iff_eq.mp
      (List.all_eq_true.mp List.all_takeWhile c hc)
  have hParts : zeros ++
      digits.reverse.dropWhile (· == '0') = digits.reverse :=
    List.takeWhile_append_dropWhile
  refine ⟨zeros.length, ?_⟩
  rw [← List.reverse_replicate, ← hZeros, withoutTrailingZeros,
    ← List.reverse_append, hParts, List.reverse_reverse]

/- The characters of a double have what rounds to it. -/
theorem exists_scans_magnitudeChars
    {m : ℕ}
    (hm : 0 < m)
    (hLess : m < 2 ^ 53)
    (e : ℤ) :
    ∃ x, Scans (magnitudeChars m e) x ∧ RoundsBack m e x := by
  have hRounds := roundsBack_shortest hm hLess e
  rw [magnitudeChars, if_neg hm.ne']
  generalize shortest m e = d at hRounds
  have hAll : ∀ c ∈ Text.numeral d.units,
      Text.isDigit c = true :=
    fun c hc => Text.isDigit_of_mem_numeral hc
  have hUnits := Text.numeralValue_numeral d.units
  rcases exists_withoutTrailingZeros (Text.numeral d.units) with
    ⟨k, hParts⟩
  dsimp only
  generalize withoutTrailingZeros (Text.numeral d.units) =
    digits at hParts
  rw [hParts] at hAll hUnits ⊢
  rw [Text.numeralValue_append_zeros] at hUnits
  have hSome : digits ≠ [] := by
    rintro rfl
    have hZero : Text.numeralValue [] = 0 := rfl
    have hPos := hRounds.pos hm
    rw [← hUnits, hZero, Nat.zero_mul, Nat.cast_zero, zero_mul]
      at hPos
    exact lt_irrefl _ hPos
  have hValue : (Text.numeralValue digits : ℚ) *
      10 ^ (d.exponent +
        ((digits ++ List.replicate k '0').length : ℕ) - 1 + 1 -
          digits.length) =
        d.units * 10 ^ d.exponent := by
    have hSum : d.exponent +
        ((digits ++ List.replicate k '0').length : ℕ) - 1 + 1 -
          digits.length = k + d.exponent := by
      rw [List.length_append, List.length_replicate]
      push_cast
      ring
    rw [hSum, zpow_add₀ (by norm_num), zpow_natCast,
      ← cast_tenTo, ← mul_assoc, ← Nat.cast_mul, hUnits]
  refine ⟨_, .layout
    (fun c hc => hAll c (List.mem_append_left _ hc)) hSome _,
    ?_⟩
  rw [hValue]
  exact hRounds

end Double

------------------------------------------------------------
-- Reading Texts of Doubles
------------------------------------------------------------

/- No number without a sign begins with anything else. -/
theorem Scans.head
    {cs : List Char}
    {x : ℚ}
    (h : Scans cs x) :
    ∃ c rest, cs = c :: rest ∧
      (Text.isDigit c = true ∨ c = '.') := by
  rcases h with ⟨s, hScan, _⟩
  cases cs with
  | nil => cases hScan
  | cons c rest =>
      refine ⟨c, rest, rfl, ?_⟩
      by_contra hOther
      rcases not_or.mp hOther with ⟨hDigit, hPoint⟩
      rw [Scientific.scan?, List.takeWhile_cons,
        List.dropWhile_cons, if_neg hDigit, if_neg hDigit]
        at hScan
      split at hScan
      next fraction back hParts =>
        split at hParts
        · next hCons =>
          cases hCons
          exact hPoint rfl
        · cases hParts
          cases hScan

namespace Double

/- Neither a digit nor a point has another case. -/
theorem toLower_eq
    {c : Char}
    (h : Text.isDigit c = true ∨ c = '.') :
    c.toLower = c := by
  have hCode : c.toNat ≤ 57 := by
    rcases h with hDigit | rfl
    · exact ((Text.isDigit_iff c).mp hDigit).2
    · decide
  unfold Char.toLower
  refine dif_neg ?_
  rintro ⟨hUpper, _⟩
  have hLetter : 65 ≤ c.toNat := hUpper
  omega

/- A number that is scanned is none of the words. -/
theorem readUnsigned?_of_scans
    {cs : List Char}
    {x : ℚ}
    (h : Scans cs x)
    (negative : Bool) :
    readUnsigned? negative cs =
      (Scientific.scan? cs).map (·.toDouble negative) := by
  rcases h.head with ⟨c, rest, rfl, hFirst⟩
  have hWord : ∀ word : List Char, ∀ d ∈ word.head?,
      d ≠ c → lowered (c :: rest) ≠ String.ofList word := by
    intro word d hd hOther hSame
    have hChars := String.ofList_injective hSame
    rw [List.map_cons, toLower_eq hFirst] at hChars
    rw [← hChars, List.head?_cons] at hd
    cases hd
    exact hOther rfl
  have hOther : 'i' ≠ c ∧ 'n' ≠ c := by
    constructor
    · rintro rfl
      exact absurd hFirst (by decide)
    · rintro rfl
      exact absurd hFirst (by decide)
  have hInf : lowered (c :: rest) ≠ "inf" :=
    hWord "inf".toList 'i' rfl hOther.1
  have hInfinity : lowered (c :: rest) ≠ "infinity" :=
    hWord "infinity".toList 'i' rfl hOther.1
  have hNan : lowered (c :: rest) ≠ "nan" :=
    hWord "nan".toList 'n' rfl hOther.2
  unfold readUnsigned?
  rw [if_neg (not_or.mpr ⟨hInf, hInfinity⟩), if_neg hNan]

/- The characters of a finite double are read as it. -/
theorem readUnsigned?_magnitudeChars
    {negative : Bool}
    {m : ℕ}
    {e : ℤ}
    (h : (finite negative m e).Representable) :
    ∃ x, Scans (magnitudeChars m e) x ∧
      readUnsigned? negative (magnitudeChars m e) =
        some (finite negative m e) := by
  rcases Nat.eq_zero_or_pos m with rfl | hm
  · have hLeast : e = -1074 :=
      h.2.1.resolve_left (by decide)
    rw [hLeast]
    have hScans : Scans ['0', '.', '0'] 0 :=
      ⟨⟨['0'], ['0'], 0⟩, by decide, zero_mul _⟩
    refine ⟨0, hScans, ?_⟩
    cases negative with
    | true => decide
    | false => decide
  · rcases exists_scans_magnitudeChars hm h.1 e with
      ⟨x, hScans, hRounds⟩
    refine ⟨x, hScans, ?_⟩
    rw [readUnsigned?_of_scans hScans]
    rcases hScans with ⟨s, hScan, hValue⟩
    rw [hScan]
    rw [← hValue] at hRounds
    exact congrArg some (ofDecimal_of_roundsBack h hm hRounds)

/- The text of a double is read back as the double. -/
theorem read?_text
    {d : Double}
    (h : d.Representable) :
    read? d.text.toList = some d := by
  cases d with
  | nan => decide
  | infinite negative =>
      cases negative with
      | false => decide
      | true => decide
  | finite negative m e =>
      rcases readUnsigned?_magnitudeChars h with
        ⟨x, hScans, hRead⟩
      cases negative with
      | true =>
          rw [text, String.toList_ofList]
          exact hRead
      | false =>
          rw [text, String.toList_ofList]
          rcases hScans.head with ⟨c, rest, hChars, hFirst⟩
          rw [hChars] at hRead ⊢
          unfold read?
          split
          · next hMinus =>
            cases hMinus
            exact absurd hFirst (by decide)
          · next hPlus =>
            cases hPlus
            exact absurd hFirst (by decide)
          · exact hRead

/- It is not empty. -/
theorem toList_text_ne_nil
    {d : Double}
    (h : d.Representable) :
    d.text.toList ≠ [] := by
  intro hNone
  have hRead := read?_text h
  rw [hNone] at hRead
  cases hRead

------------------------------------------------------------
-- Blanks
------------------------------------------------------------

/- There is no blank in an exponent. -/
theorem notMem_exponentChars (e : ℤ) :
    ' ' ∉ exponentChars e := by
  rw [Scientific.exponentChars_eq]
  intro hMem
  rcases List.mem_cons.mp hMem with hLetter | hMem
  · cases hLetter
  · rcases List.mem_cons.mp hMem with hSign | hDigit
    · split at hSign
      · cases hSign
      · cases hSign
    · exact absurd (Scientific.isDigit_of_mem_padded hDigit)
        (by decide)

/- There is none in any layout of digits. -/
theorem notMem_layout
    {digits : List Char}
    (hDigits : ' ' ∉ digits)
    (top : ℤ) :
    ' ' ∉ layout digits top := by
  have hZeros : ∀ n, ' ' ∉ List.replicate n '0' :=
    fun n hMem => by cases List.eq_of_mem_replicate hMem
  have hTake : ∀ n, ' ' ∉ digits.take n :=
    fun n hMem => hDigits (List.mem_of_mem_take hMem)
  have hDrop : ∀ n, ' ' ∉ digits.drop n :=
    fun n hMem => hDigits (List.mem_of_mem_drop hMem)
  have hExponent := notMem_exponentChars top
  unfold layout
  split
  · cases top with
    | ofNat n =>
        dsimp only
        split
        · simp [hZeros, hTake]
        · simp [hZeros, hTake, hDrop]
    | negSucc n => simp [hZeros, hDigits]
  · rcases digits with _ | ⟨d, _ | ⟨c, rest⟩⟩
    · exact List.not_mem_nil
    · exact List.not_mem_cons_of_ne_of_not_mem
        (List.ne_of_not_mem_cons hDigits) hExponent
    · have hRest : ' ' ∉ '.' :: c :: rest :=
        List.not_mem_cons_of_ne_of_not_mem (by decide)
          (List.not_mem_of_not_mem_cons hDigits)
      exact List.not_mem_append
        (List.not_mem_cons_of_ne_of_not_mem
          (List.ne_of_not_mem_cons hDigits) hRest)
        hExponent

/- There is none in the text of a finite double. -/
theorem notMem_magnitudeChars
    (m : ℕ)
    (e : ℤ) :
    ' ' ∉ magnitudeChars m e := by
  unfold magnitudeChars
  split
  · decide
  · refine notMem_layout (fun hMem => ?_) _
    have hPart :=
      (List.dropWhile_suffix _).mem (List.mem_reverse.mp hMem)
    exact Text.notMem_numeral (by decide) _
      (List.mem_reverse.mp hPart)

/- There is none in the text of any double. -/
theorem notMem_text (d : Double) : ' ' ∉ d.text.toList := by
  cases d with
  | nan => decide
  | infinite negative =>
      cases negative with
      | true => decide
      | false => decide
  | finite negative m e =>
      have hChars := notMem_magnitudeChars m e
      cases negative with
      | true =>
          rw [text, String.toList_ofList]
          exact List.not_mem_cons_of_ne_of_not_mem (by decide)
            hChars
      | false =>
          rw [text, String.toList_ofList]
          exact hChars

end Double

end Termwise
