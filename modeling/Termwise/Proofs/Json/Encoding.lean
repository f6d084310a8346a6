import Mathlib.Data.String.Basic
import Termwise.Json.Encoding
import Termwise.Json.Write

/-
  A text that starts with two ASCII characters is told to be
  UTF-8, so that the characters it is read as are its own.
  Objects are written as such texts.

  Key definitions include:
    * `Json.IsPlainAscii`

  Main declarations:
    * `Json.bytesOf_ofList`
    * `Json.encodedChars?_of_ascii`
    * `Json.encodedChars?_write`
-/

namespace Termwise

namespace Json

------------------------------------------------------------
-- Bytes
------------------------------------------------------------

/- Bytes are listed from an index on behind those before. -/
theorem byteList_loop
    (bytes : ByteArray)
    (i : Nat)
    (done : List UInt8) :
    ByteArray.toList.loop bytes i done =
      done.reverse ++ bytes.data.toList.drop i := by
  fun_induction ByteArray.toList.loop bytes i done with
  | case1 i done hMore ih =>
      have hBound : i < bytes.data.toList.length := hMore
      have hGet : bytes.get! i = bytes.data.toList[i] := by
        rw [ByteArray.get!, Array.getElem_toList]
        exact getElem!_pos bytes.data i hBound
      rw [ih, List.reverse_cons, List.append_assoc, hGet,
        List.drop_eq_getElem_cons hBound]
      rfl
  | case2 i done hDone =>
      have hEnd : bytes.data.toList.length ≤ i :=
        Nat.not_lt.mp hDone
      rw [List.drop_eq_nil_of_le hEnd, List.append_nil]

/- The bytes of characters are those of each in turn. -/
theorem bytesOf_ofList (cs : List Char) :
    bytesOf (String.ofList cs) =
      (cs.flatMap String.utf8EncodeChar).map UInt8.toNat := by
  have hBytes :
      (String.ofList cs).toUTF8 =
        (cs.flatMap String.utf8EncodeChar).toByteArray :=
    String.toByteArray_ofList
  rw [bytesOf, hBytes, ByteArray.toList, byteList_loop,
    List.toList_data_toByteArray]
  rfl

------------------------------------------------------------
-- Telling UTF-8
------------------------------------------------------------

/- An ASCII character other than the one of a zero byte. -/
def IsPlainAscii (c : Char) : Prop :=
  0 < c.toNat ∧ c.toNat < 128

instance (c : Char) : Decidable (IsPlainAscii c) :=
  inferInstanceAs (Decidable (_ ∧ _))

/- An ASCII character is one byte, and that is not zero. -/
theorem exists_byte
    {c : Char}
    (h : IsPlainAscii c) :
    ∃ b : UInt8, String.utf8EncodeChar c = [b] ∧
      b.toNat ≠ 0 := by
  have hValue : c.val ≤ 0x7F :=
    UInt32.le_iff_toNat_le.mpr (Nat.le_of_lt_succ h.2)
  have hSize : c.utf8Size = 1 := if_pos hValue
  refine ⟨_, String.utf8EncodeChar_eq_singleton hSize, ?_⟩
  have hSmall : c.val.toNat < 128 := h.2
  have hPositive : 0 < c.val.toNat := h.1
  rw [UInt32.toNat_toUInt8]
  omega

/- Bytes of which the first two are not zero are UTF-8. -/
theorem ofBytes?_eq_none
    {a b : Nat}
    (hFirst : a ≠ 0)
    (hSecond : b ≠ 0)
    (rest : List Nat) :
    WideForm.ofBytes? (a :: b :: rest) = none := by
  match rest with
  | [] =>
      rw [WideForm.ofBytes?, if_neg hFirst, if_neg hSecond]
  | [_] => rfl
  | _ :: _ :: _ =>
      rw [WideForm.ofBytes?, WideForm.ofFour?, if_neg hFirst,
        if_neg hSecond]

/- A text that starts with ASCII is read as it is. -/
theorem encodedChars?_of_ascii
    {a b : Char}
    (hFirst : IsPlainAscii a)
    (hSecond : IsPlainAscii b)
    (rest : List Char) :
    encodedChars? (String.ofList (a :: b :: rest)) =
      some (a :: b :: rest) := by
  rcases exists_byte hFirst with ⟨x, hx, hNotZero⟩
  rcases exists_byte hSecond with ⟨y, hy, hNotZero₂⟩
  have hMark : a ≠ '\ufeff' := by
    rintro rfl
    exact absurd hFirst (by decide)
  have hForm :
      WideForm.ofBytes?
        (bytesOf (String.ofList (a :: b :: rest))) = none := by
    rw [bytesOf_ofList, List.flatMap_cons, hx,
      List.flatMap_cons, hy]
    exact ofBytes?_eq_none hNotZero hNotZero₂ _
  unfold encodedChars?
  split
  · next hStart =>
      rw [String.toList_ofList] at hStart
      cases hStart
      exact absurd rfl hMark
  · simp only [hForm, String.toList_ofList]

------------------------------------------------------------
-- Written Objects
------------------------------------------------------------

/- An object is written with two ASCII characters in front. -/
theorem exists_write_object
    (l : Layout)
    (fields : List (String × Json)) :
    ∃ c rest, IsPlainAscii c ∧
      charsAt l 0 (object fields) = '\x7b' :: c :: rest := by
  cases fields with
  | nil => exact ⟨'\x7d', [], by decide, rfl⟩
  | cons field others =>
      rcases l with ⟨asciiOnly, indent⟩
      cases indent with
      | none => exact ⟨'"', _, by decide, rfl⟩
      | some width => exact ⟨'\n', _, by decide, rfl⟩

/- So it is read as the characters that it is written as. -/
theorem encodedChars?_write
    (l : Layout)
    (fields : List (String × Json)) :
    encodedChars? (write l (object fields)) =
      some (write l (object fields)).toList := by
  rcases exists_write_object l fields with
    ⟨c, rest, hSecond, hChars⟩
  have hFirst : IsPlainAscii '\x7b' := by decide
  rw [write, chars, hChars,
    encodedChars?_of_ascii hFirst hSecond,
    String.toList_ofList]

end Json

end Termwise
