import Termwise.Text.Decimal

/-
  This file defines the tables that results are shown in, and
  the consoles that show them.  A table that is laid out has
  a title that is centred over it, and a border of dashes and
  bars.

  What a console makes of a table that has not enough room is
  left open: it may break its cells into several lines or cut
  them off.  All that is assumed of a console is that a table
  that has enough room is laid out in full.

  Key definitions include:
    * `Table`
    * `Table.width`
    * `Table.lines`
    * `Console`
    * `Console.lines`
-/

namespace Termwise

/-
  A table before it is laid out: keys with their values, or
  texts that are numbered under the head of their column.
-/
inductive Table where
| pairs (title : String) (rows : List (String × String))
| numbered (title head : String) (texts : List String)
deriving DecidableEq, Repr

namespace Table

------------------------------------------------------------
-- Cells
------------------------------------------------------------

/- Some blanks. -/
def blanks (n : Nat) : List Char :=
  List.replicate n ' '

/- A text with blanks after it, up to a width. -/
def padRight (width : Nat) (cs : List Char) : List Char :=
  cs ++ blanks (width - cs.length)

/- A text with blanks before it, up to a width. -/
def padLeft (width : Nat) (cs : List Char) : List Char :=
  blanks (width - cs.length) ++ cs

/- A text in the middle of a width, rather to the left. -/
def centred (width : Nat) (cs : List Char) : List Char :=
  padRight width (blanks ((width - cs.length) / 2) ++ cs)

/- The greatest length of some texts. -/
def widest (texts : List (List Char)) : Nat :=
  texts.foldl (fun n cs => max n cs.length) 0

/- Some dashes. -/
def dashes (n : Nat) : List Char :=
  List.replicate n '-'

/- The border above and below a table. -/
def border (width : Nat) : List Char :=
  ['+'] ++ dashes (width - 2) ++ ['+']

------------------------------------------------------------
-- Widths
------------------------------------------------------------

/- The width of the column of keys. -/
def keyWidth (rows : List (String × String)) : Nat :=
  widest (rows.map fun (key, _) => key.toList)

/- The width of the column of values. -/
def valueWidth (rows : List (String × String)) : Nat :=
  widest (rows.map fun (_, value) => value.toList)

/- The width of the column of numbers. -/
def numberWidth (texts : List String) : Nat :=
  (Text.numeral texts.length).length

/- The width of the column of texts with its head. -/
def textWidth (head : String) (texts : List String) : Nat :=
  widest (head.toList :: texts.map String.toList)

/- How many columns of a console a table takes. -/
def width : Table → Nat
| pairs _ rows => keyWidth rows + valueWidth rows + 5
| numbered _ head texts =>
    numberWidth texts + textWidth head texts + 7

------------------------------------------------------------
-- Lines
------------------------------------------------------------

/- One line of a table of keys and values. -/
def pairRow
    (keyWidth valueWidth : Nat)
    (key value : List Char) : List Char :=
  ['|'] ++ padRight keyWidth key ++ [' ', '|', ' ']
    ++ padRight valueWidth value ++ ['|']

/- One line of a table of numbered texts. -/
def numberedRow
    (numberWidth textWidth : Nat)
    (number text : List Char) : List Char :=
  ['|', ' '] ++ padLeft numberWidth number ++ [' ', '|', ' ']
    ++ padRight textWidth text ++ [' ', '|']

/- The line between the heads of the columns and the rest. -/
def separator (numberWidth textWidth : Nat) : List Char :=
  ['|'] ++ dashes (numberWidth + 2) ++ ['+']
    ++ dashes (textWidth + 2) ++ ['|']

/- The rows of a numbered table, from a number on. -/
def numberedRows
    (numberWidth textWidth : Nat) :
    Nat → List String → List (List Char)
| _, [] => []
| n, text :: rest =>
    numberedRow numberWidth textWidth
        (Text.numeral n) text.toList
      :: numberedRows numberWidth textWidth (n + 1) rest

/- The lines between the borders of a table. -/
def body : Table → List (List Char)
| pairs _ rows =>
    rows.map fun (key, value) =>
      pairRow (keyWidth rows) (valueWidth rows)
        key.toList value.toList
| numbered _ head texts =>
    let n := numberWidth texts
    let w := textWidth head texts
    numberedRow n w ['#'] head.toList :: separator n w
      :: numberedRows n w 1 texts

/- The title of a table. -/
def title : Table → String
| pairs title _ => title
| numbered title _ _ => title

/- The lines of a table that is laid out in full. -/
def lines (t : Table) : List String :=
  ([centred t.width t.title.toList, border t.width] ++ t.body
    ++ [border t.width]).map String.ofList

end Table

------------------------------------------------------------
-- Consoles
------------------------------------------------------------

/-
  What tables are shown on: the number of its columns, and
  what it shows of a table that takes more of them.
-/
structure Console where
  columns : Nat
  narrow : Table → List String

namespace Console

/- The lines that a console shows of a table. -/
def lines (c : Console) (t : Table) : List String :=
  if t.width ≤ c.columns then t.lines else c.narrow t

/- A console of 20000 columns that lets wider tables run on. -/
def wide : Console :=
  ⟨20000, Table.lines⟩

end Console

end Termwise
