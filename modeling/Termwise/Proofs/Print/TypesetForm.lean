import Termwise.Print.Typeset
import Termwise.Proofs.Print.InfixForm
import Termwise.Text.Word

/-
  The typeset form of a tree keeps the leaves of the tree,
  its divisions and its products, and the braces in it pair
  up.

  Key definitions include:
    * `Separates`
    * `IsCommand`
    * `runsOf`
    * `Paired`
    * `Tree.leaves`
    * `Tree.operators`

  Main declarations:
    * `runsOf_split`
    * `Tree.runsOf_typesetChars`
    * `Tree.paired_typesetChars`
    * `Tree.occurrences_typesetChars`
    * `Tree.toTypeset_faithful`
-/

namespace Termwise

------------------------------------------------------------
-- Runs of Digits and Letters
------------------------------------------------------------

/- A run stands for a fraction or for a dot. -/
def IsCommand (run : List Char) : Prop :=
  run = Tree.fractionCommand ∨ run = Tree.dotCommand

instance (run : List Char) : Decidable (IsCommand run) :=
  inferInstanceAs (Decidable (_ ∨ _))

/-
  The runs of digits and of letters in a text, each as long
  as it can be, from left to right.  The letters of a command
  are no run.
-/
def runsOf (text : List Char) : List Lexeme :=
  match text with
  | [] => []
  | c :: cs =>
      if Text.isDigit c then
        .number (c :: cs.takeWhile Text.isDigit) ::
          runsOf (cs.dropWhile Text.isDigit)
      else if isLetter c then
        .name (c :: cs.takeWhile isLetter) ::
          runsOf (cs.dropWhile isLetter)
      else if IsCommand (c :: cs.takeWhile isLetter) then
        runsOf (cs.dropWhile isLetter)
      else runsOf cs
termination_by text.length
decreasing_by
  · exact Nat.lt_succ_of_le (length_dropWhile_le _ cs)
  · exact Nat.lt_succ_of_le (length_dropWhile_le _ cs)
  · exact Nat.lt_succ_of_le (length_dropWhile_le _ cs)
  · exact Nat.lt_succ_self _

/- A command has a character. -/
theorem IsCommand.ne_nil
    {run : List Char}
    (h : IsCommand run) :
    run ≠ [] := by
  rcases h with rfl | rfl
  · exact List.cons_ne_nil _ _
  · exact List.cons_ne_nil _ _

/- A character belongs to no run and to no command. -/
def Separates (c : Char) : Prop :=
  Text.isDigit c = false ∧ isLetter c = false ∧ c ≠ '\\'

instance (c : Char) : Decidable (Separates c) :=
  inferInstanceAs (Decidable (_ ∧ _))

/- Such a character does not stand in a command. -/
theorem Separates.notMem_command
    {c : Char}
    {run : List Char}
    (h : Separates c)
    (hRun : IsCommand run) :
    c ∉ run := by
  have hChars : ∀ d ∈ run, (d == '\\' || isLetter d) = true := by
    apply List.all_eq_true.mp
    rcases hRun with rfl | rfl
    · decide
    · decide
  intro hMem
  have hChar := hChars c hMem
  rw [h.2.1, Bool.or_false, beq_iff_eq] at hChar
  exact h.2.2 hChar

/- A run of digits is all that there is in it. -/
theorem runsOf_digits
    {digits : List Char}
    (hSome : digits ≠ [])
    (hDigits : ∀ c ∈ digits, Text.isDigit c = true) :
    runsOf digits = [.number digits] := by
  cases digits with
  | nil => exact absurd rfl hSome
  | cons c run =>
      have hRun := List.forall_mem_cons.mp hDigits
      have hTake := takeWhile_run hRun.2 (.nil _)
      have hDrop := dropWhile_run hRun.2 (.nil _)
      rw [List.append_nil] at hTake hDrop
      rw [runsOf, if_pos hRun.1, hTake, hDrop, runsOf]

/- So is a run of letters. -/
theorem runsOf_letters
    {letters : List Char}
    (hSome : letters ≠ [])
    (hLetters : ∀ c ∈ letters, isLetter c = true) :
    runsOf letters = [.name letters] := by
  cases letters with
  | nil => exact absurd rfl hSome
  | cons c run =>
      have hRun := List.forall_mem_cons.mp hLetters
      have hDigit := isDigit_eq_false_of_isLetter hRun.1
      have hTake := takeWhile_run hRun.2 (.nil _)
      have hDrop := dropWhile_run hRun.2 (.nil _)
      rw [List.append_nil] at hTake hDrop
      rw [runsOf, if_neg (by simp [hDigit]), if_pos hRun.1,
        hTake, hDrop, runsOf]

section Splitting

variable {c : Char} (h : Separates c)

include h

/- What separates runs begins none. -/
theorem runsOf_cons (rest : List Char) :
    runsOf (c :: rest) = runsOf rest := by
  have hCommand : ¬ IsCommand (c :: rest.takeWhile isLetter) :=
    fun hRun => h.notMem_command hRun List.mem_cons_self
  rw [runsOf, if_neg (by simp [h.1]), if_neg (by simp [h.2.1]),
    if_neg hCommand]

/- The runs of a text lie on either side of it. -/
theorem runsOf_split (cs rest : List Char) :
    runsOf (cs ++ c :: rest) = runsOf cs ++ runsOf rest := by
  -- A run or a command in front ends before the character.
  have hTake := takeWhile_split h.2.1
  have hDrop := dropWhile_split h.2.1
  fun_induction runsOf cs with
  | case1 => exact runsOf_cons h rest
  | case2 d cs hDigit ih =>
      rw [List.cons_append, runsOf, if_pos hDigit,
        takeWhile_split h.1, dropWhile_split h.1, ih]
      rfl
  | case3 d cs hDigit hLetter ih =>
      rw [List.cons_append, runsOf, if_neg hDigit,
        if_pos hLetter, hTake, hDrop, ih]
      rfl
  | case4 d cs hDigit hLetter hCommand ih =>
      rw [List.cons_append, runsOf, if_neg hDigit,
        if_neg hLetter, hTake, hDrop, if_pos hCommand, ih]
  | case5 d cs hDigit hLetter hCommand ih =>
      rw [List.cons_append, runsOf, if_neg hDigit,
        if_neg hLetter, hTake, if_neg hCommand, ih]

end Splitting

------------------------------------------------------------
-- Braces
------------------------------------------------------------

/-
  The braces of a text pair up: from the left no more of them
  are closed than are open, and in the end none is left.
-/
structure Paired (text : List Char) : Prop where
  within :
    ∀ start, start <+: text →
      start.count '\x7d' ≤ start.count '\x7b'
  closed : text.count '\x7d' = text.count '\x7b'

/- A start of two texts ends in the first or in the second. -/
theorem prefix_append_cases
    {start cs ds : List Char}
    (h : start <+: cs ++ ds) :
    start <+: cs ∨ ∃ more, more <+: ds ∧ start = cs ++ more := by
  rcases List.prefix_or_prefix_of_prefix h
      (List.prefix_append cs ds) with
    hFirst | ⟨more, rfl⟩
  · exact .inl hFirst
  · exact .inr ⟨more, (List.prefix_append_right_inj cs).mp h, rfl⟩

namespace Paired

variable {cs ds : List Char}

/- Where there are no braces they pair up. -/
theorem ofNone
    (hOpen : '\x7b' ∉ cs)
    (hClose : '\x7d' ∉ cs) :
    Paired cs where
  within := by
    intro start hStart
    have hNone : '\x7d' ∉ start := fun hMem =>
      hClose (hStart.subset hMem)
    rw [List.count_eq_zero_of_not_mem hNone]
    exact Nat.zero_le _
  closed := by
    rw [List.count_eq_zero_of_not_mem hOpen,
      List.count_eq_zero_of_not_mem hClose]

/- They pair up in a text after another. -/
theorem append
    (hFirst : Paired cs)
    (hSecond : Paired ds) :
    Paired (cs ++ ds) where
  within := by
    intro start hStart
    rcases prefix_append_cases hStart with
      hEarly | ⟨more, hMore, rfl⟩
    · exact hFirst.within start hEarly
    · have hLater := hSecond.within more hMore
      rw [List.count_append, List.count_append, hFirst.closed]
      exact Nat.add_le_add_left hLater _
  closed := by
    rw [List.count_append, List.count_append, hFirst.closed,
      hSecond.closed]

/- They pair up between two of them. -/
theorem enclosed (h : Paired cs) :
    Paired ('\x7b' :: (cs ++ ['\x7d'])) where
  within := by
    intro start hStart
    cases start with
    | nil => exact Nat.le_refl _
    | cons c start =>
        rcases List.cons_prefix_cons.mp hStart with
          ⟨rfl, hInner⟩
        -- Behind the brace in front one more may be closed, and
        -- only the last character does that.
        have hCount :
            start.count '\x7d' ≤ start.count '\x7b' + 1 := by
          rcases prefix_append_cases hInner with
            hEarly | ⟨more, hMore, rfl⟩
          · exact Nat.le_succ_of_le (h.within start hEarly)
          · have hOne : more.count '\x7d' ≤ 1 :=
              Nat.le_trans List.count_le_length
                hMore.length_le
            rw [List.count_append, List.count_append, h.closed]
            omega
        rw [List.count_cons_of_ne (by decide),
          List.count_cons_self]
        exact hCount
  closed := by
    simp [h.closed]

end Paired

------------------------------------------------------------
-- Commands
------------------------------------------------------------

/- The command that stands for an operator, if there is one. -/
def Op.command? : Op → Option (List Char)
| .mul => some Tree.dotCommand
| .div => some Tree.fractionCommand
| _ => none

section Commands

variable {op : Op} {word : List Char}

variable (h : op.command? = some word)

include h

/- It is a command. -/
theorem Op.isCommand : IsCommand word := by
  cases op with
  | add | sub => cases h
  | mul => exact .inr (Option.some.inj h).symm
  | div => exact .inl (Option.some.inj h).symm

/- It has no place where there is no backslash. -/
theorem Op.occurrences_eq_zero
    {cs : List Char}
    (hNone : '\\' ∉ cs) :
    Text.occurrences word cs = 0 := by
  rcases Op.isCommand h with rfl | rfl
  · exact Text.occurrences_eq_zero hNone _
  · exact Text.occurrences_eq_zero hNone _

section Separating

variable {c : Char} (hSeparates : Separates c)

include hSeparates

/- No place of it begins with what separates runs. -/
theorem Op.occurrences_cons (rest : List Char) :
    Text.occurrences word (c :: rest) =
      Text.occurrences word rest :=
  Text.occurrences_cons (Op.isCommand h).ne_nil
    (hSeparates.notMem_command (Op.isCommand h)) rest

/- Its places lie on either side of that. -/
theorem Op.occurrences_split (cs rest : List Char) :
    Text.occurrences word (cs ++ c :: rest) =
      Text.occurrences word cs + Text.occurrences word rest :=
  Text.occurrences_split (Op.isCommand h).ne_nil
    (hSeparates.notMem_command (Op.isCommand h)) cs rest

end Separating

/- It is found in itself, and not in the other command. -/
theorem Op.occurrences_command :
    Text.occurrences word Tree.dotCommand =
        [Op.mul].count op ∧
      Text.occurrences word Tree.fractionCommand =
        [Op.div].count op := by
  cases op with
  | add | sub => cases h
  | mul | div =>
      cases h
      decide

/- A sum and a difference are written without a command. -/
theorem Op.count_of_command :
    [Op.add].count op = 0 ∧ [Op.sub].count op = 0 := by
  cases op with
  | add | sub => cases h
  | mul | div => decide

end Commands

------------------------------------------------------------
-- Typeset Forms
------------------------------------------------------------

namespace Tree

/- The leaves of a tree in reading order, as they are spelled. -/
def leaves : Tree → List Lexeme
| num n => [.number (Text.numeral n)]
| var x => [.name x.toList]
| neg t => t.leaves
| bin _ l r => l.leaves ++ r.leaves

/- The operators of a tree in reading order. -/
def operators : Tree → List Op
| num _ => []
| var _ => []
| neg t => t.operators
| bin op l r => l.operators ++ op :: r.operators

/- An operation counts on top of those of its operands. -/
theorem count_operators_bin
    (o op : Op)
    (l r : Tree) :
    (bin o l r).operators.count op =
      l.operators.count op + [o].count op +
        r.operators.count op := by
  simp only [operators, List.count_append, List.count_cons,
    List.count_nil]
  omega

section Words

variable {t : Tree} (hNames : t.Lettered)

include hNames

/- The runs of the typeset form are the leaves. -/
theorem runsOf_typesetChars :
    runsOf t.typesetChars = t.leaves := by
  induction t with
  | num n =>
      exact runsOf_digits (Text.numeral_ne_nil n)
        fun c hc => Text.isDigit_of_mem_numeral hc
  | var x =>
      have hWord := lettered_var.mp hNames
      exact runsOf_letters hWord.1 hWord.2
  | neg t ih =>
      rw [typesetChars, List.singleton_append,
        runsOf_cons (by decide), ih hNames, leaves]
  | bin op l r ihLeft ihRight =>
      rcases lettered_bin.mp hNames with ⟨hLeft, hRight⟩
      cases op with
      | add | sub =>
          rw [typesetChars_sum (by decide),
            runsOf_split (by decide), runsOf_cons (by decide),
            runsOf_cons (by decide), ihLeft hLeft,
            ihRight hRight, leaves]
      | mul =>
          have hCommand : runsOf dotCommand = [] := by
            decide +kernel
          rw [typesetChars_mul, runsOf_split (by decide),
            runsOf_split (by decide), hCommand, ihLeft hLeft,
            ihRight hRight, leaves, List.nil_append]
      | div =>
          have hCommand : runsOf fractionCommand = [] := by
            decide +kernel
          rw [typesetChars_div, runsOf_split (by decide),
            runsOf_split (by decide), runsOf_cons (by decide),
            runsOf_split (by decide), hCommand, ihLeft hLeft,
            ihRight hRight, runsOf, leaves, List.nil_append,
            List.append_nil]

/- The braces of the typeset form pair up. -/
theorem paired_typesetChars : Paired t.typesetChars := by
  induction t with
  | num n =>
      show Paired (Text.numeral n)
      exact .ofNone (Text.notMem_numeral (by decide) n)
        (Text.notMem_numeral (by decide) n)
  | var x =>
      have hWord := lettered_var.mp hNames
      show Paired x.toList
      exact .ofNone (hWord.notMem (by decide))
        (hWord.notMem (by decide))
  | neg t ih =>
      exact .append (.ofNone (by decide) (by decide)) (ih hNames)
  | bin op l r ihLeft ihRight =>
      rcases lettered_bin.mp hNames with ⟨hNames₁, hNames₂⟩
      have hLeft := ihLeft hNames₁
      have hRight := ihRight hNames₂
      have hSpaced : ∀ mark : List Char,
          '\x7b' ∉ mark → '\x7d' ∉ mark →
          Paired (l.typesetChars ++ mark ++ r.typesetChars) :=
        fun mark hOpen hClose =>
          (hLeft.append (.ofNone hOpen hClose)).append hRight
      cases op with
      | add | sub => exact hSpaced _ (by decide) (by decide)
      | mul =>
          have hDot := hSpaced (' ' :: (dotCommand ++ [' ']))
            (by decide) (by decide)
          rw [typesetChars_mul]
          rw [List.append_assoc, List.cons_append,
            List.append_assoc] at hDot
          exact hDot
      | div =>
          have hCommand : Paired fractionCommand :=
            .ofNone (by decide) (by decide)
          have hGroups := hCommand.append
            (hLeft.enclosed.append hRight.enclosed)
          rw [typesetChars_div]
          rw [List.cons_append, List.append_assoc] at hGroups
          exact hGroups

/-
  The command of an operator stands in the typeset form as
  often as the operator stands in the tree.
-/
theorem occurrences_typesetChars
    {op : Op}
    {word : List Char}
    (hCommand : op.command? = some word) :
    Text.occurrences word t.typesetChars =
      t.operators.count op := by
  induction t with
  | num n =>
      exact Op.occurrences_eq_zero hCommand
        (Text.notMem_numeral (by decide) n)
  | var x =>
      have hWord := lettered_var.mp hNames
      exact Op.occurrences_eq_zero hCommand
        (hWord.notMem (by decide))
  | neg t ih =>
      rw [typesetChars, List.singleton_append,
        Op.occurrences_cons hCommand (by decide),
        ih hNames, operators]
  | bin o l r ihLeft ihRight =>
      rcases lettered_bin.mp hNames with ⟨hNames₁, hNames₂⟩
      have hLeft := ihLeft hNames₁
      have hRight := ihRight hNames₂
      rcases Op.occurrences_command hCommand with
        ⟨hDot, hFraction⟩
      rcases Op.count_of_command hCommand with ⟨hAdd, hSub⟩
      rw [count_operators_bin, ← hLeft, ← hRight]
      cases o with
      | add =>
          rw [typesetChars_sum (.inl rfl),
            Op.occurrences_split hCommand (by decide),
            Op.occurrences_cons hCommand (by decide),
            Op.occurrences_cons hCommand (by decide), hAdd]
          rfl
      | sub =>
          rw [typesetChars_sum (.inr rfl),
            Op.occurrences_split hCommand (by decide),
            Op.occurrences_cons hCommand (by decide),
            Op.occurrences_cons hCommand (by decide), hSub]
          rfl
      | mul =>
          rw [typesetChars_mul,
            Op.occurrences_split hCommand (by decide),
            Op.occurrences_split hCommand (by decide), hDot,
            Nat.add_assoc]
      | div =>
          rw [typesetChars_div,
            Op.occurrences_split hCommand (by decide),
            Op.occurrences_split hCommand (by decide),
            Op.occurrences_cons hCommand (by decide),
            Op.occurrences_split hCommand (by decide),
            hFraction, Text.occurrences]
          omega

end Words

/-
  A tree whose names are words and whose numbers can be
  written has a typeset form.  The runs in it are the leaves
  of the tree in reading order, its braces pair up, and it
  has a fraction for every division and a dot for every
  product.
-/
theorem toTypeset_faithful
    (t : Tree)
    (hNames : t.Lettered)
    (hNumbers : t.Writable) :
    ∃ form : String, t.toTypeset = .ok form ∧
      runsOf form.toList = t.leaves ∧
      Paired form.toList ∧
      Text.occurrences fractionCommand form.toList =
        t.operators.count .div ∧
      Text.occurrences dotCommand form.toList =
        t.operators.count .mul := by
  refine ⟨_, if_pos hNumbers, ?_⟩
  rw [String.toList_ofList]
  exact ⟨runsOf_typesetChars hNames,
    paired_typesetChars hNames,
    occurrences_typesetChars hNames rfl,
    occurrences_typesetChars hNames rfl⟩

/- Variables may have the names of the commands. -/
theorem toTypeset_faithful_names :
    let t := bin .add
      (bin .div (bin .mul (var "frac") (num 12))
        (neg (var "cdot")))
      (var "frac")
    t.Lettered ∧ t.Writable ∧
      ∃ form : String, t.toTypeset = .ok form ∧
        runsOf form.toList =
          [.name ['f', 'r', 'a', 'c'], .number ['1', '2'],
            .name ['c', 'd', 'o', 't'],
            .name ['f', 'r', 'a', 'c']] ∧
        Paired form.toList ∧
        Text.occurrences fractionCommand form.toList = 1 ∧
        Text.occurrences dotCommand form.toList = 1 := by
  intro t
  have hNames : t.Lettered := by decide
  have hNumbers : t.Writable := by decide +kernel
  exact ⟨hNames, hNumbers,
    toTypeset_faithful t hNames hNumbers⟩

end Tree

end Termwise
