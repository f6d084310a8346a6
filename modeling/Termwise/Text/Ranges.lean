/-
  This file defines classes of characters that are given by
  ranges of code points.

  Key definitions include:
    * `Text.Range`
    * `Text.Range.has`
    * `Text.within`
-/

namespace Termwise

namespace Text

/- A range of code points, both ends included. -/
structure Range where
  first : Nat
  last : Nat
deriving DecidableEq, Repr

/- A character lies in a range. -/
def Range.has (r : Range) (c : Char) : Bool :=
  decide (r.first ≤ c.toNat) && decide (c.toNat ≤ r.last)

/- A character lies in one of the given ranges. -/
def within (ranges : List Range) (c : Char) : Bool :=
  ranges.any fun r => r.has c

/-
  Read a table that lists the first and the last code point
  of each range by turns.
-/
def rangesOf : List Nat → List Range
| first :: last :: rest => ⟨first, last⟩ :: rangesOf rest
| _ => []

end Text

end Termwise
