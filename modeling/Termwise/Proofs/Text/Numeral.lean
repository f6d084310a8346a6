import Termwise.Text.Decimal

/-
  Numerals are made of digits, name their number, and are as
  long as their number is great.

  Main declarations:
    * `Text.isDigit_iff`
    * `Text.numeralValue_numeral`
    * `Text.length_numeral_le_iff`
    * `Text.numeralValue_lt`
    * `Text.writable_numeralValue`
    * `Text.numeralValue_append`
    * `Text.tenTo_length_pred_le`
    * `Text.writeInteger_eq_ok`
-/

namespace Termwise

namespace Text

/- The code points of digits. -/
theorem isDigit_iff (c : Char) :
    isDigit c = true ↔ 48 ≤ c.toNat ∧ c.toNat ≤ 57 := by
  simp only [isDigit, Bool.and_eq_true, decide_eq_true_eq,
    Char.le_def, UInt32.le_iff_toNat_le]
  rfl

/- A numeral has a digit. -/
theorem numeral_ne_nil (n : Nat) : numeral n ≠ [] :=
  Nat.toDigits_ne_nil

/- A numeral has nothing but digits. -/
theorem isDigit_of_mem_numeral
    {n : Nat}
    {c : Char}
    (hc : c ∈ numeral n) :
    isDigit c = true := by
  have hDigit : c.isDigit = true :=
    Nat.isDigit_of_mem_toDigits (by decide) (by decide) hc
  simpa [isDigit, Char.isDigit, Char.le_def] using hDigit

/- It has no other character. -/
theorem notMem_numeral
    {c : Char}
    (h : isDigit c = false)
    (n : Nat) :
    c ∉ numeral n := by
  intro hMem
  rw [isDigit_of_mem_numeral hMem] at h
  cases h

/- A numeral is written for its number. -/
theorem numeralValue_numeral (n : Nat) :
    numeralValue (numeral n) = n :=
  Nat.ofDigitChars_ten_toDigits

/- A numeral has few digits if its number is small. -/
theorem length_numeral_le_iff
    {n k : Nat}
    (hk : 0 < k) :
    (numeral n).length ≤ k ↔ n < tenTo k :=
  Nat.length_toDigits_le_iff (by decide) hk

/- A number can be written if its numeral is short enough. -/
theorem length_numeral_le_of_writable
    {n : Nat}
    (h : Writable n) :
    (numeral n).length ≤ digitLimit :=
  (length_numeral_le_iff (by decide)).mpr h

/- The first digit counts for a whole power of ten. -/
theorem numeralValue_cons
    (c : Char)
    (digits : List Char) :
    numeralValue (c :: digits) =
      tenTo digits.length * (c.toNat - '0'.toNat) +
        numeralValue digits := by
  have hFirst :
      numeralValue (c :: digits) =
        Nat.ofDigitChars 10 digits (c.toNat - '0'.toNat) := by
    rw [← Nat.zero_add (c.toNat - '0'.toNat)]
    rfl
  rw [hFirst, Nat.ofDigitChars_eq_ofDigitChars_zero]
  rfl

/-
  Digits are written for a number that is smaller than the
  power of ten with as many zeros.
-/
theorem numeralValue_lt
    {digits : List Char}
    (h : ∀ c ∈ digits, isDigit c = true) :
    numeralValue digits < tenTo digits.length := by
  induction digits with
  | nil => decide
  | cons c digits ih =>
      have hCode := (isDigit_iff c).mp (h c List.mem_cons_self)
      have hDigit : c.toNat - '0'.toNat ≤ 9 := by
        show c.toNat - 48 ≤ 9
        omega
      have hFirst :
          tenTo digits.length * (c.toNat - '0'.toNat) ≤
            tenTo digits.length * 9 :=
        Nat.mul_le_mul_left _ hDigit
      have hRest : numeralValue digits < tenTo digits.length :=
        ih fun d hd => h d (List.mem_cons_of_mem c hd)
      have hPower :
          tenTo (c :: digits).length =
            tenTo digits.length * 10 :=
        rfl
      rw [numeralValue_cons]
      omega

/- Only the numeral of zero begins with a zero. -/
theorem eq_nil_of_numeral_eq
    {n : Nat}
    {digits : List Char}
    (h : numeral n = '0' :: digits) :
    digits = [] := by
  rcases Nat.eq_zero_or_pos digits.length with hNone | hSome
  · exact List.length_eq_zero_iff.mp hNone
  · have hDigits : ∀ c ∈ digits, isDigit c = true := by
      intro c hc
      refine isDigit_of_mem_numeral (n := n) ?_
      rw [h]
      exact List.mem_cons_of_mem _ hc
    have hValue : n = numeralValue digits := by
      rw [← numeralValue_numeral n, h, numeralValue_cons]
      exact Nat.zero_add _
    have hShort :=
      (length_numeral_le_iff hSome).mpr
        (Nat.lt_of_le_of_lt (Nat.le_of_eq hValue)
          (numeralValue_lt hDigits))
    rw [h, List.length_cons] at hShort
    omega

/- A power of ten grows with its exponent. -/
theorem tenTo_le_tenTo
    {m n : Nat}
    (h : m ≤ n) :
    tenTo m ≤ tenTo n :=
  Nat.pow_le_pow_right (by decide) h

/- A number that is written in few digits can be written. -/
theorem writable_numeralValue
    {digits : List Char}
    (hDigits : ∀ c ∈ digits, isDigit c = true)
    (hShort : digits.length ≤ digitLimit) :
    Writable (numeralValue digits) :=
  Nat.lt_of_lt_of_le (numeralValue_lt hDigits)
    (tenTo_le_tenTo hShort)

/- Digits before others count for a power of ten more. -/
theorem numeralValue_append (ds cs : List Char) :
    numeralValue (ds ++ cs) =
      numeralValue ds * tenTo cs.length + numeralValue cs := by
  induction ds with
  | nil =>
      have hNone : numeralValue [] = 0 := rfl
      rw [List.nil_append, hNone, Nat.zero_mul, Nat.zero_add]
  | cons d ds ih =>
      have hPower : tenTo (ds ++ cs).length =
          tenTo ds.length * tenTo cs.length := by
        rw [List.length_append]
        exact Nat.pow_add 10 _ _
      rw [List.cons_append, numeralValue_cons, ih, hPower,
        numeralValue_cons, Nat.add_mul, Nat.add_assoc,
        Nat.mul_right_comm]

/- Zeros are written for zero. -/
theorem numeralValue_zeros (k : Nat) :
    numeralValue (List.replicate k '0') = 0 := by
  induction k with
  | zero => rfl
  | succ k ih =>
      have hZero : '0'.toNat - '0'.toNat = 0 := rfl
      rw [List.replicate_succ, numeralValue_cons, ih, hZero,
        Nat.mul_zero]

/- Zeros before other digits do not count. -/
theorem numeralValue_zeros_append
    (k : Nat)
    (ds : List Char) :
    numeralValue (List.replicate k '0' ++ ds) =
      numeralValue ds := by
  rw [numeralValue_append, numeralValue_zeros, Nat.zero_mul,
    Nat.zero_add]

/- Each zero after them makes them ten times as much. -/
theorem numeralValue_append_zeros
    (ds : List Char)
    (k : Nat) :
    numeralValue (ds ++ List.replicate k '0') =
      numeralValue ds * tenTo k := by
  rw [numeralValue_append, numeralValue_zeros,
    List.length_replicate, Nat.add_zero]

/- Zeros are digits. -/
theorem isDigit_of_mem_zeros
    {k : Nat}
    {c : Char}
    (hc : c ∈ List.replicate k '0') :
    isDigit c = true := by
  rw [List.eq_of_mem_replicate hc]
  decide

/- All digits of a numeral do not count less than it. -/
theorem lt_tenTo_length (n : Nat) :
    n < tenTo (numeral n).length :=
  (length_numeral_le_iff
    (List.length_pos_iff.mpr (numeral_ne_nil n))).mp
    (Nat.le_refl _)

/- The first of them does not count more. -/
theorem tenTo_length_pred_le
    {n : Nat}
    (hn : 0 < n) :
    tenTo ((numeral n).length - 1) ≤ n := by
  rcases Nat.eq_zero_or_pos ((numeral n).length - 1) with
    hZero | hPos
  · rw [hZero]
    exact hn
  · refine Nat.le_of_not_lt fun hLess => ?_
    have hShort := (length_numeral_le_iff hPos).mpr hLess
    omega

/- What an integer is written as, if it is. -/
theorem writeInteger_eq_ok
    {n : Int}
    {text : String} :
    writeInteger n = .ok text ↔
      Writable n.natAbs ∧ integer n = text := by
  rw [writeInteger]
  split
  · next hWritable => simp [hWritable]
  · next hWritable => simp [hWritable]

end Text

end Termwise
