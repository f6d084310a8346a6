/-
  This file defines what is left of a text after a given
  start.

  Key definitions include:
    * `Text.afterStart?`
-/

namespace Termwise

namespace Text

/- The rest of a text that begins with a given start. -/
def afterStart? :
    List Char → List Char → Option (List Char)
| [], cs => some cs
| _ :: _, [] => none
| p :: ps, c :: cs => if p = c then afterStart? ps cs else none

end Text

end Termwise
