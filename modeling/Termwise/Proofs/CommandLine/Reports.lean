import Termwise.CommandLine.Run
import Termwise.Proofs.CommandLine.Tables
import Termwise.Proofs.Double.Order
import Termwise.Proofs.Double.Text
import Termwise.Proofs.Equivalence.Verdict
import Termwise.Proofs.Print.InfixForm

/-
  The table of a check shows its report: from the lines of
  the table one reads the verdict, the variables, how many
  trials were made and skipped, and the counterexample with
  its values.

  Key definitions include:
    * `Report.counterexampleOf?`
    * `Report.ofRows?`
    * `Report.ofLines?`
    * `Report.IsLegible`

  Main declarations:
    * `Report.ofRows?_reportRows`
    * `Report.ofLines?_lines`
    * `Report.ofLines?_console`
    * `isLegible_of_check`
-/

namespace Termwise

namespace Report

------------------------------------------------------------
-- Reading Cells
------------------------------------------------------------

/-
  The items of a cell, which stand between commas.  Blanks do
  not count, and a hyphen stands for no items.
-/
def items (cell : String) : List (List Char) :=
  if cell = "-" then []
  else (cell.toList.filter (· != ' ')).splitOn ','

/- The verdict that a word stands for. -/
def verdict? (cell : String) : Option Bool :=
  if cell = "yes" then some true
  else if cell = "no" then some false
  else none

/- The number that some digits are written for. -/
def natural? (cs : List Char) : Option Nat :=
  if !cs.isEmpty && cs.all Text.isDigit then
    some (Text.numeralValue cs)
  else none

/- The integer that digits are written for, after a sign. -/
def integer? : List Char → Option Int
| '-' :: digits => (natural? digits).map fun n => -(n : Int)
| digits => (natural? digits).map fun n => (n : Int)

/- A variable and its value, on both sides of an equals sign. -/
def binding? (item : List Char) : Option (String × Int) :=
  match item.splitOn '=' with
  | [name, value] =>
      (integer? value).map fun n => (String.ofList name, n)
  | _ => none

/- Two numbers with a word between them. -/
def numbers? (cell : String) : Option (Double × Double) :=
  match cell.toList.splitOn ' ' with
  | [left, ['v', 's'], right] => do
      return (← Double.read? left, ← Double.read? right)
  | _ => none

------------------------------------------------------------
-- Reading Reports
------------------------------------------------------------

/-
  The counterexample that some rows are about, or none if
  there is no row for it.
-/
def counterexampleOf?
    (rows : List (String × String)) :
    Option (Option Counterexample) :=
  match rows.lookup "counterexample" with
  | none => some none
  | some assignment => do
      let bindings ← (items assignment).mapM binding?
      let (left, right) ← numbers? (← rows.lookup "values")
      return some ⟨bindings, left, right⟩

/-
  The report that some rows are about.  Each of its parts
  stands behind its own key.
-/
def ofRows?
    (rows : List (String × String)) : Option Report := do
  let equivalent ← verdict? (← rows.lookup "equivalent")
  let names ← rows.lookup "variables"
  let trialsRun ←
    natural? (← rows.lookup "trials run").toList
  let trialsSkipped ←
    natural? (← rows.lookup "trials skipped").toList
  let counterexample ← counterexampleOf? rows
  some
    ⟨equivalent, (items names).map String.ofList, trialsRun,
      trialsSkipped, counterexample⟩

/- The report that a table shows with these lines. -/
def ofLines? (lines : List String) : Option Report :=
  ofRows? (Table.rowsOf lines)

/-
  A report can be read: its variables are words, and its
  values are of the binary64 format.
-/
structure IsLegible (r : Report) : Prop where
  names : ∀ x ∈ r.names, IsWord x
  assigned :
    ∀ c ∈ r.counterexample, ∀ p ∈ c.assignment, IsWord p.1
  values :
    ∀ c ∈ r.counterexample,
      c.left.Representable ∧ c.right.Representable

------------------------------------------------------------
-- Items
------------------------------------------------------------

/-
  A text that begins with a letter and has neither blanks nor
  commas.
-/
structure IsItem (s : String) : Prop where
  letter : ∃ c rest, s.toList = c :: rest ∧ isLetter c = true
  blank : ' ' ∉ s.toList
  comma : ',' ∉ s.toList

/- A word is an item. -/
theorem IsItem.of_isWord
    {x : String}
    (h : IsWord x) :
    IsItem x := by
  refine ⟨?_, h.notMem (by decide), h.notMem (by decide)⟩
  rcases List.exists_cons_of_ne_nil h.1 with ⟨c, rest, hChars⟩
  refine ⟨c, rest, hChars, h.2 c ?_⟩
  rw [hChars]
  exact List.mem_cons_self

/- There is no blank left between items and commas. -/
theorem filter_intercalate
    {items : List (List Char)}
    (h : ∀ cs ∈ items, ' ' ∉ cs) :
    ([',', ' '].intercalate items).filter (· != ' ') =
      [','].intercalate items := by
  have hFilter : ∀ cs ∈ items,
      cs.filter (· != ' ') = cs := by
    intro cs hcs
    rw [List.filter_eq_self]
    intro c hc
    rw [bne_iff_ne]
    rintro rfl
    exact h cs hcs hc
  induction items with
  | nil => rfl
  | cons cs items ih =>
      have hFirst := hFilter cs List.mem_cons_self
      cases items with
      | nil =>
          rw [List.intercalate_singleton,
            List.intercalate_singleton]
          exact hFirst
      | cons ds items =>
          rw [List.intercalate_cons_cons,
            List.intercalate_cons_cons, List.filter_append,
            List.filter_append, hFirst,
            ih (fun es hes => h es (List.mem_cons_of_mem _ hes))
              fun es hes =>
                hFilter es (List.mem_cons_of_mem _ hes)]
          rfl

/- Items with commas between them begin with the first. -/
theorem exists_intercalate_cons
    (sep cs : List Char)
    (rest : List (List Char)) :
    ∃ back, sep.intercalate (cs :: rest) = cs ++ back := by
  cases rest with
  | nil =>
      refine ⟨[], ?_⟩
      rw [List.intercalate_singleton, List.append_nil]
  | cons ds rest =>
      refine ⟨sep ++ sep.intercalate (ds :: rest), ?_⟩
      rw [List.intercalate_cons_cons, List.append_assoc]

/- They end with the last. -/
theorem exists_intercalate_concat
    (sep cs : List Char)
    (rest : List (List Char)) :
    ∃ front, ∃ last ∈ cs :: rest,
      sep.intercalate (cs :: rest) = front ++ last := by
  induction rest generalizing cs with
  | nil =>
      refine ⟨[], cs, List.mem_cons_self, ?_⟩
      rw [List.intercalate_singleton, List.nil_append]
  | cons ds rest ih =>
      rcases ih ds with ⟨front, last, hLast, hParts⟩
      refine ⟨cs ++ sep ++ front, last,
        List.mem_cons_of_mem cs hLast, ?_⟩
      rw [List.intercalate_cons_cons, hParts,
        List.append_assoc (cs ++ sep)]

/- The characters of items with commas between them. -/
theorem toList_commaSeparated (texts : List String) :
    (Json.commaSeparated texts).toList =
      [',', ' '].intercalate (texts.map String.toList) :=
  String.toList_intercalate

/- A cell with an item is neither empty nor a hyphen. -/
theorem orHyphen_commaSeparated
    {s : String}
    (h : IsItem s)
    (texts : List String) :
    let cell := Json.commaSeparated (s :: texts)
    CommandLine.orHyphen cell = cell ∧ cell ≠ "-" := by
  intro cell
  rcases h.letter with ⟨c, rest, hChars, hLetter⟩
  rcases exists_intercalate_cons [',', ' '] s.toList
      (texts.map String.toList) with
    ⟨back, hParts⟩
  have hCell : cell.toList = c :: (rest ++ back) := by
    rw [toList_commaSeparated, List.map_cons, hParts, hChars,
      List.cons_append]
  constructor
  · have hSome : cell.isEmpty = false := by
      rw [Bool.eq_false_iff, ne_eq, String.isEmpty_iff]
      intro hNone
      rw [hNone] at hCell
      cases hCell
    rw [CommandLine.orHyphen, hSome,
      if_neg Bool.false_ne_true]
  · intro hHyphen
    rw [hHyphen] at hCell
    rw [← (List.cons.inj hCell).1] at hLetter
    exact absurd hLetter (by decide)

/- Items that are listed in a cell are read again. -/
theorem items_orHyphen
    {texts : List String}
    (h : ∀ s ∈ texts, IsItem s) :
    items (CommandLine.orHyphen (Json.commaSeparated texts)) =
      texts.map String.toList := by
  cases texts with
  | nil => rfl
  | cons s texts =>
      rcases orHyphen_commaSeparated
          (h s List.mem_cons_self) texts with
        ⟨hSame, hOther⟩
      have hBlank : ∀ cs ∈ (s :: texts).map String.toList,
          ' ' ∉ cs := by
        intro cs hcs
        rcases List.mem_map.mp hcs with ⟨x, hx, rfl⟩
        exact (h x hx).blank
      have hComma : ∀ cs ∈ (s :: texts).map String.toList,
          ',' ∉ cs := by
        intro cs hcs
        rcases List.mem_map.mp hcs with ⟨x, hx, rfl⟩
        exact (h x hx).comma
      rw [hSame, items, if_neg hOther, toList_commaSeparated,
        filter_intercalate hBlank,
        List.splitOn_intercalate _ hComma
          (List.cons_ne_nil _ _)]

/- A cell of items ends with the last of them. -/
theorem isCell_orHyphen
    {texts : List String}
    (h : ∀ s ∈ texts, IsItem s) :
    Table.IsCell
      (CommandLine.orHyphen
        (Json.commaSeparated texts)).toList := by
  cases texts with
  | nil => exact .of_notMem (by decide) (by decide)
  | cons s texts =>
      have hSame := (orHyphen_commaSeparated
        (h s List.mem_cons_self) texts).1
      rcases exists_intercalate_concat [',', ' '] s.toList
          (texts.map String.toList) with
        ⟨front, last, hLast, hParts⟩
      rw [hSame, toList_commaSeparated, List.map_cons, hParts]
      rw [← List.map_cons] at hLast
      rcases List.mem_map.mp hLast with ⟨x, hx, rfl⟩
      rcases (h x hx).letter with ⟨c, rest, hChars, _⟩
      refine Table.IsCell.append (.of_notMem ?_ (h x hx).blank) _
      rw [hChars]
      exact List.cons_ne_nil c rest

------------------------------------------------------------
-- Assignments
------------------------------------------------------------

/- An integer is written with digits and perhaps a sign. -/
theorem mem_integer
    {n : ℤ}
    {c : Char}
    (hc : c ∈ (Text.integer n).toList) :
    Text.isDigit c = true ∨ c = '-' := by
  rw [Text.integer, String.toList_ofList] at hc
  cases n with
  | ofNat n => exact .inl (Text.isDigit_of_mem_numeral hc)
  | negSucc n =>
      rcases List.mem_cons.mp hc with rfl | hDigit
      · exact .inr rfl
      · exact .inl (Text.isDigit_of_mem_numeral hDigit)

/- What is written for a number is that number again. -/
theorem natural?_numeral (n : ℕ) :
    natural? (Text.numeral n) = some n := by
  have hSome : (Text.numeral n).isEmpty = false :=
    List.isEmpty_eq_false_iff.mpr (Text.numeral_ne_nil n)
  have hDigits : (Text.numeral n).all Text.isDigit = true :=
    List.all_eq_true.mpr fun c hc =>
      Text.isDigit_of_mem_numeral hc
  rw [natural?, hSome, hDigits, Text.numeralValue_numeral]
  rfl

/- What is written for an integer is that integer again. -/
theorem integer?_integer (n : ℤ) :
    integer? (Text.integer n).toList = some n := by
  rw [Text.integer, String.toList_ofList]
  cases n with
  | ofNat n =>
      have hHead : ∀ digits,
          Text.numeral n ≠ '-' :: digits := by
        intro digits hSame
        refine Text.notMem_numeral (c := '-') (by decide) n ?_
        rw [hSame]
        exact List.mem_cons_self
      show integer? (Text.numeral n) = some n
      unfold integer?
      split
      · next digits hSame => exact absurd hSame (hHead digits)
      · rw [natural?_numeral]
        rfl
  | negSucc n =>
      show (natural? (Text.numeral (n + 1))).map
        (fun m => -(m : ℤ)) = _
      rw [natural?_numeral]
      rfl

section Bindings

variable {x : String} (h : IsWord x) (n : ℤ)

include h

/- A variable with its value is an item. -/
theorem isItem_binding :
    IsItem (x ++ "=" ++ Text.integer n) := by
  have hParts : (x ++ "=" ++ Text.integer n).toList =
      x.toList ++ '=' :: (Text.integer n).toList := by
    rw [String.toList_append, String.toList_append,
      List.append_assoc]
    rfl
  have hOther : ∀ c, isLetter c = false →
      Text.isDigit c = false → c ≠ '-' → c ≠ '=' →
        c ∉ (x ++ "=" ++ Text.integer n).toList := by
    intro c hLetter hDigit hMinus hEquals hMem
    rw [hParts] at hMem
    rcases List.mem_append.mp hMem with hName | hMem
    · exact h.notMem hLetter hName
    · rcases List.mem_cons.mp hMem with hSame | hMem
      · exact hEquals hSame
      · rcases mem_integer hMem with hSome | hSame
        · rw [hDigit] at hSome
          cases hSome
        · exact hMinus hSame
  refine ⟨?_, hOther ' ' (by decide) (by decide) (by decide)
    (by decide), hOther ',' (by decide) (by decide) (by decide)
    (by decide)⟩
  rcases (IsItem.of_isWord h).letter with
    ⟨c, rest, hChars, hLetter⟩
  refine ⟨c, rest ++ '=' :: (Text.integer n).toList, ?_,
    hLetter⟩
  rw [hParts, hChars, List.cons_append]

/- It is read again. -/
theorem binding?_eq :
    binding? (x ++ "=" ++ Text.integer n).toList =
      some (x, n) := by
  have hParts : (x ++ "=" ++ Text.integer n).toList =
      ['='].intercalate
        [x.toList, (Text.integer n).toList] := by
    rw [String.toList_append, String.toList_append,
      List.intercalate_cons_cons, List.intercalate_singleton]
    rfl
  have hEquals : ∀ cs ∈ [x.toList, (Text.integer n).toList],
      '=' ∉ cs := by
    intro cs hcs
    rcases List.mem_cons.mp hcs with rfl | hcs
    · exact h.notMem (by decide)
    · rw [List.mem_singleton.mp hcs]
      intro hMem
      rcases mem_integer hMem with hDigit | hSame
      · exact absurd hDigit (by decide)
      · cases hSame
  rw [binding?, hParts, List.splitOn_intercalate _ hEquals
    (List.cons_ne_nil _ _)]
  show (integer? (Text.integer n).toList).map
    (fun n => (String.ofList x.toList, n)) = _
  rw [integer?_integer, String.ofList_toList]
  rfl

end Bindings

/- The items of an assignment. -/
theorem isItem_of_mem_assignment
    {a : Assignment}
    (h : ∀ p ∈ a, IsWord p.1) :
    ∀ s ∈ a.map fun (x, n) => x ++ "=" ++ Text.integer n,
      IsItem s := by
  intro s hs
  rcases List.mem_map.mp hs with ⟨⟨x, n⟩, hMem, rfl⟩
  exact isItem_binding (h _ hMem) n

/- An assignment is read again. -/
theorem mapM_binding?
    {a : Assignment}
    (h : ∀ p ∈ a, IsWord p.1) :
    (items (CommandLine.assignmentCell a)).mapM binding? =
      some a := by
  rw [CommandLine.assignmentCell,
    items_orHyphen (isItem_of_mem_assignment h)]
  induction a with
  | nil => rfl
  | cons p a ih =>
      have hFirst := binding?_eq (h p List.mem_cons_self) p.2
      have hRest := ih fun q hq =>
        h q (List.mem_cons_of_mem p hq)
      rw [List.map_cons, List.map_cons, List.mapM_cons,
        hFirst, hRest]
      rfl

------------------------------------------------------------
-- Values
------------------------------------------------------------

/- The values of a counterexample are read again. -/
theorem numbers?_eq
    {p q : Double}
    (hLeft : p.Representable)
    (hRight : q.Representable) :
    numbers? (p.text ++ " vs " ++ q.text) = some (p, q) := by
  have hParts : (p.text ++ " vs " ++ q.text).toList =
      [' '].intercalate
        [p.text.toList, ['v', 's'], q.text.toList] := by
    rw [String.toList_append, String.toList_append,
      List.intercalate_cons_cons, List.intercalate_cons_cons,
      List.intercalate_singleton, List.append_assoc,
      List.append_assoc]
    rfl
  have hBlank :
      ∀ cs ∈ [p.text.toList, ['v', 's'], q.text.toList],
        ' ' ∉ cs := by
    rw [List.forall_mem_cons, List.forall_mem_cons,
      List.forall_mem_singleton]
    exact ⟨p.notMem_text, by decide, q.notMem_text⟩
  rw [numbers?, hParts, List.splitOn_intercalate _ hBlank
    (List.cons_ne_nil _ _)]
  show (do return (← Double.read? p.text.toList,
    ← Double.read? q.text.toList)) = _
  rw [Double.read?_text hLeft, Double.read?_text hRight]
  rfl

------------------------------------------------------------
-- Rows
------------------------------------------------------------

variable {r : Report} (h : r.IsLegible)

include h

/- The rows about a counterexample are read as it. -/
theorem counterexampleOf?_reportRows :
    counterexampleOf? (CommandLine.reportRows r) =
      some r.counterexample := by
  rcases r with ⟨verdict, names, run, skipped, found⟩
  cases found with
  | none => rfl
  | some c =>
      rcases h.values c rfl with ⟨hLeft, hRight⟩
      have hAssigned := mapM_binding? (h.assigned c rfl)
      have hValues := numbers?_eq hLeft hRight
      show (do
        let bindings ←
          (items (CommandLine.assignmentCell
            c.assignment)).mapM binding?
        let (left, right) ←
          numbers? (c.left.text ++ " vs " ++ c.right.text)
        return some ⟨bindings, left, right⟩ :
          Option (Option Counterexample)) = _
      rw [hAssigned, hValues]
      rfl

/- The rows of the table of a check are read as its report. -/
theorem ofRows?_reportRows :
    ofRows? (CommandLine.reportRows r) = some r := by
  have hFound := counterexampleOf?_reportRows h
  have hVerdict :
      verdict? (if r.equivalent then "yes" else "no") =
        some r.equivalent := by
    cases r.equivalent with
    | true => rfl
    | false => rfl
  have hNames :
      (items (CommandLine.orHyphen
          (Json.commaSeparated r.names))).map String.ofList =
        r.names := by
    rw [items_orHyphen fun x hx => .of_isWord (h.names x hx),
      List.map_map]
    refine (List.map_congr_left fun x _ => ?_).trans
      (List.map_id _)
    exact String.ofList_toList
  have hCount : ∀ n,
      natural? (Text.natural n).toList = some n := by
    intro n
    rw [Text.natural, String.toList_ofList, natural?_numeral]
  show (do
    let equivalent ←
      verdict? (if r.equivalent then "yes" else "no")
    let trialsRun ← natural? (Text.natural r.trialsRun).toList
    let trialsSkipped ←
      natural? (Text.natural r.trialsSkipped).toList
    let counterexample ←
      counterexampleOf? (CommandLine.reportRows r)
    some
      ⟨equivalent,
        (items (CommandLine.orHyphen
          (Json.commaSeparated r.names))).map String.ofList,
        trialsRun, trialsSkipped, counterexample⟩ :
      Option Report) = some r
  rw [hVerdict, hNames, hCount, hCount, hFound]
  rfl

/- Every row of the table of a check has two cells. -/
theorem isRow_of_mem_reportRows
    {row : String × String}
    (hRow : row ∈ CommandLine.reportRows r) :
    Table.IsRow row := by
  have hDigits : ∀ n, Table.IsCell (Text.natural n).toList := by
    intro n
    rw [Text.natural, String.toList_ofList]
    exact .of_notMem (Text.numeral_ne_nil n)
      (Text.notMem_numeral (by decide) n)
  have hNames := isCell_orHyphen fun x hx =>
    .of_isWord (h.names x hx)
  rcases List.mem_append.mp hRow with hAlways | hFound
  · simp only [List.mem_cons, List.not_mem_nil, or_false]
      at hAlways
    rcases hAlways with rfl | rfl | rfl | rfl
    · refine .of_key (by decide) (by decide) ?_
      cases r.equivalent with
      | true => exact .of_getLast? (by decide)
      | false => exact .of_getLast? (by decide)
    · exact .of_key (by decide) (by decide) hNames
    · exact .of_key (by decide) (by decide) (hDigits _)
    · exact .of_key (by decide) (by decide) (hDigits _)
  · cases hSome : r.counterexample with
    | none =>
        rw [hSome] at hFound
        cases hFound
    | some c =>
        rw [hSome] at hFound
        have hAssignment := isCell_orHyphen
          (isItem_of_mem_assignment (h.assigned c hSome))
        have hRight := (h.values c hSome).2
        simp only [Option.map_some, Option.getD_some,
          CommandLine.counterexampleRows, List.mem_cons,
          List.not_mem_nil, or_false] at hFound
        rcases hFound with rfl | rfl
        · exact .of_key (by decide) (by decide) hAssignment
        · refine .of_key (by decide) (by decide) ?_
          rw [String.toList_append]
          exact (Table.IsCell.of_notMem
            (Double.toList_text_ne_nil hRight)
            c.right.notMem_text).append _

/- The lines of the table of a check are read as its report. -/
theorem ofLines?_lines :
    ofLines? (CommandLine.reportTable r).lines = some r := by
  rw [ofLines?, CommandLine.reportTable,
    Table.rowsOf_lines (by decide)
      fun row hRow => isRow_of_mem_reportRows h hRow]
  exact ofRows?_reportRows h

/- So are the lines that a wide enough console shows. -/
theorem ofLines?_console
    {console : Console}
    (hRoom :
      (CommandLine.reportTable r).width ≤ console.columns) :
    ofLines? (console.lines (CommandLine.reportTable r)) =
      some r := by
  rw [Console.lines, if_pos hRoom]
  exact ofLines?_lines h

end Report

/- The report of a check of trees with words can be read. -/
theorem isLegible_of_check
    {cfg : Config}
    {t u : Tree}
    {source source₂ : Twister}
    {report : Report}
    (hLeft : t.Lettered)
    (hRight : u.Lettered)
    (hCheck : check cfg t u source = (.ok report, source₂)) :
    report.IsLegible := by
  have hNames : ∀ x ∈ variablesOf [t, u], IsWord x := by
    intro x hx
    rcases mem_variablesOf.mp hx with hFirst | hSecond
    · exact hLeft x hFirst
    · exact hRight x hSecond
  rcases check_cases hCheck with
    ⟨_, _, ⟨i, p, q, _, _, rfl⟩ | ⟨_, rfl⟩⟩
  · refine ⟨hNames, ?_, ?_⟩
    · rintro c ⟨⟩ pair hPair
      have hKey := List.mem_map_of_mem (f := Prod.fst) hPair
      rw [sampled_keys] at hKey
      exact hNames pair.1 hKey
    · rintro c ⟨⟩
      exact ⟨Double.representable_ofRat p,
        Double.representable_ofRat q⟩
  · refine ⟨hNames, ?_, ?_⟩
    · rintro c ⟨⟩
    · rintro c ⟨⟩

end Termwise
