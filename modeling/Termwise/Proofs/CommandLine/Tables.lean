import Mathlib.Data.List.DropRight
import Termwise.CommandLine.Table
import Termwise.Proofs.Text.Run

/-
  A table of keys and values that is laid out is read again:
  its lines with two cells between bars, without the blanks
  behind them, are its rows.

  Key definitions include:
    * `Table.cells?`
    * `Table.rowsOf`
    * `Table.IsCell`
    * `Table.IsRow`

  Main declarations:
    * `Table.cells?_pairRow`
    * `Table.rowsOf_lines`
-/

namespace Termwise

namespace Table

------------------------------------------------------------
-- Reading Lines
------------------------------------------------------------

/- A cell without the blanks behind its text. -/
def cellText (cs : List Char) : String :=
  String.ofList (cs.rdropWhile (· == ' '))

/-
  The two cells of a line.  The first one ends at the second
  bar; the other one begins after a blank, and ends at the
  last bar.
-/
def cells? (line : List Char) : Option (String × String) :=
  match line with
  | '|' :: rest =>
      match rest.dropWhile (· != '|') with
      | '|' :: ' ' :: value =>
          some (cellText (rest.takeWhile (· != '|')),
            cellText value.dropLast)
      | _ => none
  | _ => none

/- The rows of cells among some lines. -/
def rowsOf (lines : List String) : List (String × String) :=
  lines.filterMap fun line => cells? line.toList

------------------------------------------------------------
-- Cells
------------------------------------------------------------

/- A text that ends, but not with a blank. -/
def IsCell (cs : List Char) : Prop :=
  ∃ front c, cs = front ++ [c] ∧ c ≠ ' '

/- The blanks behind a text are dropped from a cell. -/
theorem cellText_append_blanks
    {cs : List Char}
    (h : IsCell cs)
    (n : ℕ) :
    cellText (cs ++ blanks n) = String.ofList cs := by
  have hDropped :
      (cs ++ blanks n).rdropWhile (· == ' ') = cs := by
    induction n with
    | zero =>
        rcases h with ⟨front, c, rfl, hLast⟩
        rw [blanks, List.replicate_zero, List.append_nil]
        refine List.rdropWhile_concat_neg _ _ _ ?_
        rw [beq_iff_eq]
        exact hLast
    | succ n ih =>
        rw [blanks, List.replicate_succ', ← List.append_assoc,
          List.rdropWhile_concat_pos _ _ _ (by decide)]
        exact ih
  rw [cellText, hDropped]

/- A text that is put before a cell makes one with it. -/
theorem IsCell.append
    {cs : List Char}
    (h : IsCell cs)
    (ds : List Char) :
    IsCell (ds ++ cs) := by
  rcases h with ⟨front, c, rfl, hLast⟩
  exact ⟨ds ++ front, c, (List.append_assoc _ _ _).symm, hLast⟩

/- A text is a cell if its last character is no blank. -/
theorem IsCell.of_getLast?
    {cs : List Char}
    (h : cs.getLast?.any (· != ' ') = true) :
    IsCell cs := by
  cases hLast : cs.getLast? with
  | none =>
      rw [hLast] at h
      cases h
  | some c =>
      rw [hLast] at h
      rcases List.getLast?_eq_some_iff.mp hLast with
        ⟨front, hParts⟩
      exact ⟨front, c, hParts, bne_iff_ne.mp h⟩

/- A text without blanks is a cell if it has a character. -/
theorem IsCell.of_notMem
    {cs : List Char}
    (hSome : cs ≠ [])
    (h : ' ' ∉ cs) :
    IsCell cs := by
  refine ⟨cs.dropLast, cs.getLast hSome,
    (List.dropLast_append_getLast hSome).symm, ?_⟩
  intro hBlank
  rw [← hBlank] at h
  exact h (List.getLast_mem hSome)

/- A row of two cells, with no bar in the first. -/
structure IsRow (row : String × String) : Prop where
  key : IsCell row.1.toList
  value : IsCell row.2.toList
  bar : '|' ∉ row.1.toList

/- A row of a key that has no bar and does not end blank. -/
theorem IsRow.of_key
    {key value : String}
    (hKey : key.toList.getLast?.any (· != ' ') = true)
    (hBar : '|' ∉ key.toList)
    (hValue : IsCell value.toList) :
    IsRow (key, value) :=
  ⟨.of_getLast? hKey, hValue, hBar⟩

------------------------------------------------------------
-- Rows
------------------------------------------------------------

/- The cells of a line of keys and values are read again. -/
theorem cells?_pairRow
    {row : String × String}
    (h : IsRow row)
    (n k : ℕ) :
    cells? (pairRow n k row.1.toList row.2.toList) =
      some row := by
  rcases row with ⟨key, value⟩
  rcases h with ⟨hKey, hValue, hBar⟩
  let front := key.toList ++ blanks (n - key.toList.length + 1)
  let back := value.toList ++ blanks (k - value.toList.length)
  have hRow :
      pairRow n k key.toList value.toList =
        '|' :: (front ++ '|' :: ' ' :: (back ++ ['|'])) := by
    have hBlanks : ∀ n, blanks (n + 1) = blanks n ++ [' '] :=
      fun _ => List.replicate_succ'
    simp only [pairRow, padRight, front, back, hBlanks,
      List.append_assoc, List.cons_append, List.nil_append]
  have hFront : ∀ c ∈ front, (c != '|') = true := by
    intro c hc
    rw [bne_iff_ne]
    rintro rfl
    rcases List.mem_append.mp hc with hText | hBlank
    · exact hBar hText
    · cases List.eq_of_mem_replicate hBlank
  have hEnds : EndsRun (· != '|')
      ('|' :: ' ' :: (back ++ ['|'])) :=
    .cons (by decide) _
  rw [hRow, cells?, takeWhile_run hFront hEnds,
    dropWhile_run hFront hEnds]
  show some (cellText front, cellText (back ++ ['|']).dropLast) =
    some (key, value)
  rw [List.dropLast_concat, cellText_append_blanks hKey,
    cellText_append_blanks hValue, String.ofList_toList,
    String.ofList_toList]

/- A line that does not begin with a bar has no cells. -/
theorem cells?_eq_none
    {cs : List Char}
    (h : cs.head? ≠ some '|') :
    cells? cs = none := by
  unfold cells?
  split
  · exact absurd rfl h
  · rfl

/- The title of a table does not become a row. -/
theorem head?_centred
    {cs : List Char}
    (h : cs.head? ≠ some '|')
    (n : ℕ) :
    (centred n cs).head? ≠ some '|' := by
  have hBlanks : ∀ (k : ℕ) (ds : List Char),
      ds.head? ≠ some '|' →
        (blanks k ++ ds).head? ≠ some '|' := by
    intro k ds hHead
    cases k with
    | zero => exact hHead
    | succ k => exact fun hSame => by cases hSame
  rw [centred, padRight, List.append_assoc]
  refine hBlanks _ _ ?_
  cases cs with
  | nil =>
      rw [List.nil_append, ← List.append_nil (blanks _)]
      exact hBlanks _ _ h
  | cons c cs => exact h

/- The rows among lines that are made of characters. -/
theorem rowsOf_map (lines : List (List Char)) :
    rowsOf (lines.map String.ofList) =
      lines.filterMap cells? := by
  rw [rowsOf, List.filterMap_map]
  refine List.filterMap_congr fun line _ => ?_
  rw [Function.comp_apply, String.toList_ofList]

/-
  The lines of a table of keys and values are read as its
  rows, if its title does not begin with a bar.
-/
theorem rowsOf_lines
    {title : String}
    {rows : List (String × String)}
    (hTitle : title.toList.head? ≠ some '|')
    (hRows : ∀ row ∈ rows, IsRow row) :
    rowsOf (pairs title rows).lines = rows := by
  have hFirst : ∀ n,
      cells? (centred n (pairs title rows).title.toList) =
        none :=
    fun n => cells?_eq_none (head?_centred hTitle n)
  have hBorder : ∀ n, cells? (border n) = none :=
    fun _ => rfl
  have hBody : (pairs title rows).body.filterMap cells? =
      rows := by
    rw [body, List.filterMap_map]
    refine (List.filterMap_congr fun row hRow => ?_).trans
      List.filterMap_some
    exact cells?_pairRow (hRows row hRow) _ _
  rw [lines, rowsOf_map, List.filterMap_append,
    List.filterMap_append, hBody,
    List.filterMap_cons_none (hFirst _),
    List.filterMap_cons_none (hBorder _), List.filterMap_nil,
    List.nil_append, List.append_nil]

end Table

end Termwise
