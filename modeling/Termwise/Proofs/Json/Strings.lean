import Mathlib.Tactic.SplitIfs
import Termwise.Json.Mark
import Termwise.Json.Write

/-
  A string that was written is scanned as the string that it
  was: what each character is written as is scanned as pieces
  that are joined to that character.

  Key definitions include:
    * `Json.IsWrittenAs`

  Main declarations:
    * `Text.hexValue?_digitChar`
    * `Json.scanPieces?_unitChars`
    * `Json.isWrittenAs_stringChar`
    * `Json.scanString?_stringChars`
-/

namespace Termwise

------------------------------------------------------------
-- Hexadecimal Digits
------------------------------------------------------------

/- A hexadecimal digit has the value that it is written for. -/
theorem Text.hexValue?_digitChar :
    ∀ n < 16, hexValue? (Nat.digitChar n) = some n := by
  decide

namespace Json

/- Four hexadecimal digits are read as their number. -/
theorem hexUnit?_digits
    {n : Nat}
    (h : n < 0x10000) :
    hexUnit? (Nat.digitChar (n / 16 / 16 / 16 % 16))
      (Nat.digitChar (n / 16 / 16 % 16))
      (Nat.digitChar (n / 16 % 16))
      (Nat.digitChar (n % 16)) = some n := by
  have hDigit : ∀ m,
      Text.hexValue? (Nat.digitChar (m % 16)) =
        some (m % 16) := fun m =>
    Text.hexValue?_digitChar _ (Nat.mod_lt m (by decide))
  have hNumber :
      ((n / 16 / 16 / 16 % 16 * 16 + n / 16 / 16 % 16) * 16
        + n / 16 % 16) * 16 + n % 16 = n := by
    omega
  simp only [hexUnit?, hDigit, hNumber]

------------------------------------------------------------
-- Pieces
------------------------------------------------------------

/- An escaped code unit is scanned as that unit. -/
theorem scanPieces?_unitChars
    {n : Nat}
    (h : n < 0x10000)
    (done : List Piece)
    (rest : List Char) :
    scanPieces? done (unitChars n ++ rest) =
      scanPieces? (.unit n :: done) rest := by
  show scanPieces? done
      ('\\' :: 'u' :: Nat.digitChar (n / 16 / 16 / 16 % 16)
        :: Nat.digitChar (n / 16 / 16 % 16)
        :: Nat.digitChar (n / 16 % 16)
        :: Nat.digitChar (n % 16) :: rest) = _
  rw [scanPieces?, hexUnit?_digits h]

/-
  Characters are a way to write another one in a string: they
  are scanned as pieces that are joined to it, whatever
  stands before and behind them.
-/
def IsWrittenAs
    (c : Char)
    (cs : List Char) : Prop :=
  ∃ pieces : List Piece,
    (∀ done rest, scanPieces? done (cs ++ rest) =
      scanPieces? (pieces ++ done) rest) ∧
    ∀ before after, joinPieces? (pieces ++ before) after =
      joinPieces? before (c :: after)

/- No character is half of a surrogate pair. -/
theorem not_half (c : Char) :
    isLow c.toNat = false ∧ isHigh c.toNat = false := by
  have hValid := c.valid
  rw [UInt32.isValidChar, Nat.isValidChar] at hValid
  have hCode : c.toNat = c.val.toNat := rfl
  simp only [isLow, isHigh, hCode, Bool.and_eq_false_iff,
    decide_eq_false_iff_not]
  omega

/- A character may be written as its code unit. -/
theorem isWrittenAs_unitChars
    {c : Char}
    (h : c.toNat < 0x10000) :
    IsWrittenAs c (unitChars c.toNat) := by
  rcases not_half c with ⟨hLow, hHigh⟩
  refine ⟨[.unit c.toNat], ?_, ?_⟩
  · intro done rest
    exact scanPieces?_unitChars h done rest
  · intro before after
    rw [List.singleton_append]
    cases before with
    | nil =>
        simp [joinPieces?, hLow, hHigh, Char.ofNat_toNat]
    | cons p before =>
        cases p with
        | char d =>
            simp [joinPieces?, hLow, hHigh, Char.ofNat_toNat]
        | unit n =>
            simp [joinPieces?, hLow, hHigh, Char.ofNat_toNat]

/- The code units of a pair are joined to its character. -/
theorem pairChar_units
    {c : Char}
    (h : 0x10000 ≤ c.toNat) :
    pairChar (0xD800 + (c.toNat - 0x10000) / 0x400)
      (0xDC00 + (c.toNat - 0x10000) % 0x400) = c := by
  have hCode :
      0x10000 + (0xD800 + (c.toNat - 0x10000) / 0x400 - 0xD800)
          * 0x400
        + (0xDC00 + (c.toNat - 0x10000) % 0x400 - 0xDC00) =
        c.toNat := by
    omega
  rw [pairChar, hCode, Char.ofNat_toNat]

/- A character beyond them is written as a pair of units. -/
theorem isWrittenAs_pair
    {c : Char}
    (h : 0x10000 ≤ c.toNat) :
    IsWrittenAs c
      (unitChars (0xD800 + (c.toNat - 0x10000) / 0x400)
        ++ unitChars
          (0xDC00 + (c.toNat - 0x10000) % 0x400)) := by
  have hPair := pairChar_units h
  have hLimit : c.toNat < 0x110000 := by
    have hValid := c.valid
    rw [UInt32.isValidChar, Nat.isValidChar] at hValid
    have hCode : c.toNat = c.val.toNat := rfl
    omega
  generalize hHighUnit :
    0xD800 + (c.toNat - 0x10000) / 0x400 = high at hPair ⊢
  generalize hLowUnit :
    0xDC00 + (c.toNat - 0x10000) % 0x400 = low at hPair ⊢
  have hHigh : isHigh high = true := by
    simp only [isHigh, Bool.and_eq_true, decide_eq_true_eq]
    omega
  have hLow : isLow low = true := by
    simp only [isLow, Bool.and_eq_true, decide_eq_true_eq]
    omega
  refine ⟨[.unit low, .unit high], ?_, ?_⟩
  · intro done rest
    rw [List.append_assoc,
      scanPieces?_unitChars (by omega),
      scanPieces?_unitChars (by omega)]
    rfl
  · intro before after
    simp [joinPieces?, hLow, hHigh, hPair]

/- A character may be written as escaped code units. -/
theorem isWrittenAs_escapedChars (c : Char) :
    IsWrittenAs c (escapedChars c) := by
  rw [escapedChars]
  split_ifs with hSmall
  · exact isWrittenAs_unitChars hSmall
  · exact isWrittenAs_pair (Nat.not_lt.mp hSmall)

/- Some characters may be written as a short escape. -/
theorem isWrittenAs_shortEscape
    {c e : Char}
    (hShort : shortEscape? e = some c)
    (hUnit : e ≠ 'u') :
    IsWrittenAs c ['\\', e] := by
  refine ⟨[.char c], ?_, ?_⟩
  · intro done rest
    show scanPieces? done ('\\' :: e :: rest) = _
    rw [scanPieces?, hShort]
    · rfl
    · intro a b c d rest hSame
      exact absurd hSame hUnit
  · intro before after
    rw [List.singleton_append, joinPieces?]

/- Most characters may be written as they are. -/
theorem isWrittenAs_self
    {c : Char}
    (hQuote : c ≠ '"')
    (hBackslash : c ≠ '\\')
    (hControl : ¬ c.toNat < 0x20) :
    IsWrittenAs c [c] := by
  refine ⟨[.char c], ?_, ?_⟩
  · intro done rest
    show scanPieces? done (c :: rest) = _
    rw [scanPieces?]
    · rw [if_neg (not_or.mpr ⟨hControl, hBackslash⟩)]
      rfl
    · exact hQuote
    · intro a b c d rest hSame
      exact absurd hSame hBackslash
    · intro e rest hSame
      exact absurd hSame hBackslash
  · intro before after
    rw [List.singleton_append, joinPieces?]

/- Every character is written in one of these ways. -/
theorem isWrittenAs_stringChar
    (asciiOnly : Bool)
    (c : Char) :
    IsWrittenAs c (stringChar asciiOnly c) := by
  unfold stringChar
  split_ifs with hQuote hBackslash hBackspace hFormFeed
    hNewline hReturn hTab hControl hOther
  · rw [hQuote]
    exact isWrittenAs_shortEscape rfl (by decide)
  · rw [hBackslash]
    exact isWrittenAs_shortEscape rfl (by decide)
  · rw [hBackspace]
    exact isWrittenAs_shortEscape rfl (by decide)
  · rw [hFormFeed]
    exact isWrittenAs_shortEscape rfl (by decide)
  · rw [hNewline]
    exact isWrittenAs_shortEscape rfl (by decide)
  · rw [hReturn]
    exact isWrittenAs_shortEscape rfl (by decide)
  · rw [hTab]
    exact isWrittenAs_shortEscape rfl (by decide)
  · exact isWrittenAs_escapedChars c
  · exact isWrittenAs_escapedChars c
  · exact isWrittenAs_self hQuote hBackslash hControl

------------------------------------------------------------
-- Strings
------------------------------------------------------------

/- What characters are written as is scanned and joined. -/
theorem exists_pieces_of_chars
    (asciiOnly : Bool)
    (cs : List Char) :
    ∃ pieces : List Piece,
      (∀ done rest,
        scanPieces? done
            (cs.flatMap (stringChar asciiOnly) ++ rest) =
          scanPieces? (pieces ++ done) rest) ∧
      ∀ before after, joinPieces? (pieces ++ before) after =
        joinPieces? before (cs ++ after) := by
  induction cs with
  | nil => exact ⟨[], fun _ _ => rfl, fun _ _ => rfl⟩
  | cons c cs ih =>
      rcases isWrittenAs_stringChar asciiOnly c with
        ⟨first, hScan, hJoin⟩
      rcases ih with ⟨later, hScanLater, hJoinLater⟩
      refine ⟨later ++ first, ?_, ?_⟩
      · intro done rest
        rw [List.flatMap_cons, List.append_assoc, hScan,
          hScanLater, List.append_assoc]
      · intro before after
        rw [List.append_assoc, hJoinLater, hJoin]
        rfl

/- A string that was written is scanned as it was. -/
theorem scanString?_stringChars
    (d : Dialect)
    (asciiOnly : Bool)
    (s : String)
    (rest : List Char) :
    scanString? d
        (s.toList.flatMap (stringChar asciiOnly)
          ++ '"' :: rest) =
      some (.text s, rest) := by
  rcases exists_pieces_of_chars asciiOnly s.toList with
    ⟨pieces, hScan, hJoin⟩
  have hPieces := hScan [] ('"' :: rest)
  have hText := hJoin [] []
  rw [List.append_nil, scanPieces?] at hPieces
  rw [List.append_nil, List.append_nil, joinPieces?] at hText
  simp only [scanString?, hPieces, ofPieces, hText,
    String.ofList_toList]

end Json

end Termwise
