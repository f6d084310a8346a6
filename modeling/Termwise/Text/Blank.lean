import Termwise.Text.Ranges

/-
  This file defines white space and how it is cut off from
  the ends of a text.

  Two classes are in use.  Blank characters separate the
  tokens of an expression.  Spacing characters are those
  with the Unicode property `White_Space`; they surround
  numbers that are given as text.  The four separators
  U+001C to U+001F are blank and not spacing.

  Key definitions include:
    * `Text.isBlank`
    * `Text.isSpacing`
    * `Text.trim`
-/

namespace Termwise

namespace Text

------------------------------------------------------------
-- Classes of White Space
------------------------------------------------------------

/- The characters with the property `White_Space`. -/
def spacingRanges : List Range :=
  rangesOf
    [0x09, 0x0D, 0x20, 0x20, 0x85, 0x85, 0xA0, 0xA0,
     0x1680, 0x1680, 0x2000, 0x200A, 0x2028, 0x2029,
     0x202F, 0x202F, 0x205F, 0x205F, 0x3000, 0x3000]

/- A character with the property `White_Space`. -/
def isSpacing (c : Char) : Bool :=
  within spacingRanges c

/- The information separators of the control characters. -/
def separatorRanges : List Range :=
  [⟨0x1C, 0x1F⟩]

/- A character that separates tokens. -/
def isBlank (c : Char) : Bool :=
  within spacingRanges c || within separatorRanges c

------------------------------------------------------------
-- Trimming
------------------------------------------------------------

/- Cut the characters of a class off both ends of a text. -/
def trim
    (drop : Char → Bool)
    (cs : List Char) : List Char :=
  ((cs.dropWhile drop).reverse.dropWhile drop).reverse

end Text

end Termwise
