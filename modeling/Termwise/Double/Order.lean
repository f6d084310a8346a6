import Termwise.Double.Basic

/-
  This file defines which doubles the binary64 format has,
  and the order of doubles.

  Key definitions include:
    * `Double.Representable`
    * `Double.AtMost`
-/

namespace Termwise

namespace Double

/-
  A double is one of the binary64 format: its mantissa has at
  most 53 bits, and fewer of them only with the least
  exponent.
-/
def Representable : Double → Prop
| nan => True
| infinite _ => True
| finite _ m e =>
    m < twoTo 53 ∧ (twoTo 52 ≤ m ∨ e = -1074) ∧
      -1074 ≤ e ∧ e ≤ 971

instance (d : Double) : Decidable d.Representable := by
  cases d <;> unfold Representable <;> infer_instance

/-
  The order of doubles.  The infinities are outside of all
  finite doubles, which are compared by their values; what is
  not a number compares with nothing.
-/
def AtMost (x y : Double) : Prop :=
  (x = infinite true ∧ y ≠ nan) ∨
    (x ≠ nan ∧ y = infinite false) ∨
    ∃ p q, x.toRat? = some p ∧ y.toRat? = some q ∧ p ≤ q

end Double

end Termwise
