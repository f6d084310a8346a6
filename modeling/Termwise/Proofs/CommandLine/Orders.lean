import Termwise.CommandLine.Order
import Termwise.Proofs.CommandLine.Words

/-
  How the words of a comparison are read.  Ordinary words are
  its operands and the numbers of its flags.  An expression
  that is no ordinary word leaves an operand open, so that
  the comparison is not made.

  Key definitions include:
    * `Word.isPlain`
    * `Word.number`
    * `Given.numbered`
    * `Given.compared`
    * `CommandLine.equivWords`

  Main declarations:
    * `Command.readWords_hit`
    * `Command.readWords_before_hit`
    * `Command.readWords_number`
    * `Order.read_word`
    * `Order.read_equivWords`
    * `Order.read_equivWords_open`
-/

namespace Termwise

------------------------------------------------------------
-- Operands That Stay
------------------------------------------------------------

section Operands

variable {g g₂ : Given}

/- Acting on a flag leaves the operands. -/
theorem Given.act_operands
    {f : Flag}
    (h : g.act f = .ok g₂) :
    g₂.operands = g.operands := by
  cases f <;> cases h <;> rfl

/- Acting on a number leaves the operands. -/
theorem Given.actWith_operands
    {f : Flag}
    {value : String}
    (h : g.actWith f value = .ok g₂) :
    g₂.operands = g.operands := by
  cases f with
  | text =>
      cases h
      rfl
  | seed | trials =>
      rcases map_eq_ok.mp h with ⟨n, _, rfl⟩
      rfl
  | help | json | steps | typeset =>
      rw [actWith] at h
      · exact act_operands h
      all_goals exact Flag.noConfusion

/- So does acting on several flags. -/
theorem Given.actAll_operands
    {fs : List Flag}
    (h : g.actAll fs = .ok g₂) :
    g₂.operands = g.operands := by
  induction fs generalizing g with
  | nil =>
      cases h
      rfl
  | cons f rest ih =>
      rw [actAll] at h
      split at h
      · cases h
      · next g₁ hFirst => rw [ih h, act_operands hFirst]

/- The demands of a word are met without operands. -/
theorem Command.meet_operands
    {d : Demand}
    (h : meet g d = .ok g₂) :
    g₂.operands = g.operands := by
  unfold meet at h
  split at h
  · cases h
  · next g₁ hFlags =>
      have hFirst := Given.actAll_operands hFlags
      split at h
      · rw [Given.actWith_operands h, hFirst]
      · cases h
        exact hFirst

end Operands

------------------------------------------------------------
-- Flags Among the Words
------------------------------------------------------------

namespace Command

/- A flag takes no word, or an ordinary one that is next. -/
theorem settle_eq_ok
    {d d₂ : Demand}
    {rest : List Word}
    {ws : { ws : List Word // ws.length ≤ rest.length }}
    (h : settle d rest = .ok (d₂, ws)) :
    ws.1 = rest ∨ ∃ w, rest = .plain w :: ws.1 := by
  rcases d with ⟨flags, last⟩
  cases last with
  | nothing | value =>
      cases h
      exact .inl rfl
  | waiting f =>
      rcases rest with - | ⟨w, rest⟩
      · cases h
      · cases w with
        | plain w =>
            cases h
            exact .inr ⟨w, rfl⟩
        | hit | unknown | separator => cases h

/-
  A flag ends the reading, or it is read on from the next
  word or from the one after an ordinary word, with the same
  operands.
-/
theorem readWords_hit
    (c : Command)
    (g : Given)
    (hit : Hit)
    (rest : List Word) :
    (∃ stop, c.readWords g (.hit hit :: rest) =
        .error stop) ∨
      ∃ g₂ rest₂,
        c.readWords g (.hit hit :: rest) =
          c.readWords g₂ rest₂ ∧
        g₂.operands = g.operands ∧
        (rest₂ = rest ∨ ∃ w, rest = .plain w :: rest₂) := by
  rw [readWords]
  split
  · exact .inl ⟨_, rfl⟩
  · next d hDemand =>
      split
      · exact .inl ⟨_, rfl⟩
      · next d₂ rest₂ hRest hSettle =>
          split
          · exact .inl ⟨_, rfl⟩
          · next g₂ hMeet =>
              exact .inr ⟨g₂, rest₂, rfl, meet_operands hMeet,
                settle_eq_ok hSettle⟩

/- An ordinary word is an operand if one is open. -/
theorem readWords_plain
    {rest : List Word}
    (c : Command)
    (g : Given)
    (w : String)
    (hNext : rest.head? ≠ some .separator) :
    c.readWords g (.plain w :: rest) =
      if c.wants g then
        c.readWords (g.addOperand (Given.valueOf w)) rest
      else c.readWords (g.addExtra w) rest := by
  rw [readWords]
  rintro others rfl
  exact hNext rfl

end Command

/- A word is an ordinary one. -/
def Word.isPlain : Word → Bool
| .plain _ => true
| _ => false

namespace Command

/-
  Reading some words ends early, or it goes on at others with
  no more than a number of operands.
-/
def ReadsTo
    (c : Command)
    (g : Given)
    (ws rest : List Word)
    (n : Nat) : Prop :=
  (∃ stop, c.readWords g ws = .error stop) ∨
    ∃ g₂, c.readWords g ws = c.readWords g₂ rest ∧
      g₂.operands.length ≤ n

/- It may do so after words that are read. -/
theorem ReadsTo.of_eq
    {c : Command}
    {g g₂ : Given}
    {ws ws₂ rest : List Word}
    {m n : Nat}
    (h : c.ReadsTo g₂ ws₂ rest m)
    (hRead : c.readWords g ws = c.readWords g₂ ws₂)
    (hLess : m ≤ n) :
    c.ReadsTo g ws rest n := by
  rcases h with ⟨stop, hStop⟩ | ⟨g₃, hRest, hCount⟩
  · exact .inl ⟨stop, hRead.trans hStop⟩
  · exact .inr ⟨g₃, hRead.trans hRest, hCount.trans hLess⟩

/- Words without a separator do not start with one. -/
theorem head?_before_hit
    {ws : List Word}
    (hit : Hit)
    (rest : List Word)
    (h : .separator ∉ ws) :
    (ws ++ Word.hit hit :: rest).head? ≠ some .separator := by
  cases ws with
  | nil => simp
  | cons w ws =>
      intro hHead
      cases hHead
      exact h List.mem_cons_self

/-
  Words in front of a flag end the reading, or they are read
  up to the flag.  No more operands are given then than there
  are ordinary words.  The induction is on the number of
  words, since a flag may take two of them at once.
-/
theorem readWords_before_hit
    {ws : List Word}
    (c : Command)
    (g : Given)
    (hit : Hit)
    (rest : List Word)
    (hWords : .separator ∉ ws) :
    c.ReadsTo g (ws ++ .hit hit :: rest) (.hit hit :: rest)
      (g.operands.length + ws.countP Word.isPlain) := by
  induction hLength : ws.length using Nat.strong_induction_on
    generalizing ws g with
  | h n ih =>
      subst hLength
      rcases ws with - | ⟨w, ws⟩
      · exact .inr ⟨g, rfl, Nat.le_refl _⟩
      · have hRest : .separator ∉ ws := fun hMem =>
          hWords (.tail _ hMem)
        have hLess : ws.length < (w :: ws).length :=
          Nat.lt_succ_self _
        rw [List.cons_append]
        cases w with
        | separator => exact absurd List.mem_cons_self hWords
        | unknown w =>
            refine (ih _ hLess (g.addExtra w) hRest rfl).of_eq
              (by rw [readWords]) ?_
            exact Nat.le_refl _
        | plain w =>
            have hNext :
                (ws ++ Word.hit hit :: rest).head? ≠
                  some .separator :=
              head?_before_hit hit rest hRest
            have hRead := c.readWords_plain g w hNext
            rw [List.countP_cons_of_pos rfl]
            split at hRead
            · refine (ih _ hLess
                (g.addOperand (Given.valueOf w)) hRest
                rfl).of_eq hRead ?_
              rw [Given.addOperand, List.length_append,
                List.length_singleton]
              omega
            · refine (ih _ hLess (g.addExtra w) hRest
                rfl).of_eq hRead ?_
              exact Nat.le_succ _
        | hit h =>
            rcases c.readWords_hit g h
                (ws ++ .hit hit :: rest) with
              hStop | ⟨g₂, rest₂, hRead, hSame, hNext⟩
            · exact .inl hStop
            · rw [← hSame]
              rcases hNext with rfl | ⟨v, hValue⟩
              · exact (ih _ hLess g₂ hRest rfl).of_eq hRead
                  (Nat.le_refl _)
              -- The value of the flag is a word fewer to count.
              · rcases ws with - | ⟨w, ws⟩
                · cases hValue
                · cases hValue
                  refine (ih _ (hLess.trans' (by simp)) g₂
                    (fun hMem => hRest (.tail _ hMem))
                    rfl).of_eq hRead ?_
                  exact Nat.add_le_add_left
                    (List.Sublist.countP_le (by simp)) _

end Command

------------------------------------------------------------
-- Numbers of Flags
------------------------------------------------------------

/- A flag that takes a number in a comparison. -/
def Flag.TakesNumber (f : Flag) : Prop :=
  f = .seed ∨ f = .trials

/- What a number of a flag adds to what is given. -/
def Given.numbered
    (g : Given)
    (f : Flag) : Option Int → Given
| none => g
| some n =>
    match f with
    | .seed => { g with seed := some (some n) }
    | .trials => { g with trials := some (some n) }
    | _ => g

/- The words that give a flag a number, if there is one. -/
def Word.number (f : Flag) : Option Int → List Word
| none => []
| some n => [.hit ⟨f, .nothing⟩, .plain (Text.integer n)]

/- It adds no operand. -/
theorem Given.numbered_operands
    (g : Given)
    (f : Flag)
    (n : Option Int) :
    (g.numbered f n).operands = g.operands := by
  cases n with
  | none => rfl
  | some n => cases f <;> rfl

/- An integer that can be written is the number of a flag. -/
theorem Given.actWith_integer
    {f : Flag}
    {n : Int}
    (g : Given)
    (hFlag : f.TakesNumber)
    (hNumber : Text.Writable n.natAbs) :
    g.actWith f (Text.integer n) = .ok (g.numbered f (some n)) := by
  have hValue : valueOf (Text.integer n) = some (Text.integer n) :=
    if_neg (Scope.integer_ne_separator n)
  have hRead := CommandLine.readInteger?_integer hNumber
  rcases hFlag with rfl | rfl
  · simp only [actWith, integerOf, hValue, hRead]
    rfl
  · simp only [actWith, integerOf, hValue, hRead]
    rfl

/- The words of a number are read as the number. -/
theorem Command.readWords_number
    {f : Flag}
    {n : Option Int}
    (c : Command)
    (g : Given)
    (rest : List Word)
    (hFlag : f.TakesNumber)
    (hNumber : ∀ m ∈ n, Text.Writable m.natAbs) :
    c.readWords g (Word.number f n ++ rest) =
      c.readWords (g.numbered f n) rest := by
  cases n with
  | none => rfl
  | some n =>
      have hAct := g.actWith_integer hFlag (hNumber n rfl)
      have hDemand :
          Hit.demand c.flags ⟨f, .nothing⟩ =
            .ok ⟨[], .waiting f⟩ := by
        rcases hFlag with rfl | rfl <;> rfl
      rw [Word.number, List.cons_append, readWords, hDemand]
      simp only [List.cons_append, List.nil_append, settle, meet,
        Given.actAll, hAct]

/- So are those of both numbers of a comparison. -/
theorem Command.readWords_numbers
    {seed trials : Option Int}
    (c : Command)
    (g : Given)
    (hSeed : ∀ n ∈ seed, Text.Writable n.natAbs)
    (hTrials : ∀ n ∈ trials, Text.Writable n.natAbs) :
    c.readWords g
        (Word.number .seed seed
          ++ Word.number .trials trials) =
      .ok ((g.numbered .seed seed).numbered .trials trials) := by
  have hLast := c.readWords_number (g.numbered .seed seed) []
    (.inr rfl) hTrials
  rw [List.append_nil] at hLast
  rw [c.readWords_number g _ (.inl rfl) hSeed, hLast, readWords]

------------------------------------------------------------
-- The Words of a Comparison
------------------------------------------------------------

namespace CommandLine

/- The words of a flag with a number, if there is one. -/
def numberWords (spelling : String) : Option Int → List String
| none => []
| some n => [spelling, Text.integer n]

/-
  The words of a command line that asks for a comparison of
  two expressions, with a seed and a number of trials.
-/
def equivWords
    (left right : String)
    (seed trials : Option Int) : List String :=
  "equiv" :: left :: right ::
    (numberWords "--seed" seed
      ++ numberWords "--trials" trials)

end CommandLine

/- What is given by the words of a comparison. -/
def Given.compared
    (left right : String)
    (seed trials : Option Int) : Given :=
  { nothing with
    seed := seed.map some
    trials := trials.map some
    operands := [some left, some right] }

namespace Scope

/- An ordinary word is one of the words that are read. -/
theorem words_plain
    {s : Scope}
    {w : String}
    (rest : List String)
    (hSeparator : w ≠ "--")
    (hKind : s.kindOf w = .plain) :
    s.words (w :: rest) = (s.words rest).map (.plain w :: ·) := by
  rw [words, if_neg hSeparator, hKind]

/- So is a word that spells a flag. -/
theorem words_hit
    {s : Scope}
    {w : String}
    {hit : Hit}
    (rest : List String)
    (hSeparator : w ≠ "--")
    (hKind : s.kindOf w = .hit hit) :
    s.words (w :: rest) = (s.words rest).map (.hit hit :: ·) := by
  rw [words, if_neg hSeparator, hKind]

/- The words of a number in front of others. -/
theorem words_numberWords
    {f : Flag}
    {spelling : String}
    {rest : List String}
    {ws : List Word}
    (n : Option Int)
    (hSeparator : spelling ≠ "--")
    (hFlag :
      (command .equiv).kindOf spelling = .hit ⟨f, .nothing⟩)
    (hRest : (command .equiv).words rest = .ok ws) :
    (command .equiv).words
        (CommandLine.numberWords spelling n ++ rest) =
      .ok (Word.number f n ++ ws) := by
  cases n with
  | none => exact hRest
  | some n =>
      rw [CommandLine.numberWords, List.cons_append,
        words_hit _ hSeparator hFlag, List.cons_append,
        words_plain _ (integer_ne_separator n)
          (kindOf_integer n), List.nil_append, hRest]
      rfl

/- The words of both numbers of a comparison. -/
theorem words_numbers (seed trials : Option Int) :
    (command .equiv).words
        (CommandLine.numberWords "--seed" seed
          ++ CommandLine.numberWords "--trials" trials) =
      .ok (Word.number .seed seed
        ++ Word.number .trials trials) := by
  have hTrials :
      (command .equiv).words
          (CommandLine.numberWords "--trials" trials ++ []) =
        .ok (Word.number .trials trials ++ []) :=
    words_numberWords trials (by decide) (by decide) rfl
  rw [List.append_nil, List.append_nil] at hTrials
  exact words_numberWords seed (by decide) (by decide) hTrials

/- An expression is some word that is no separator. -/
theorem exists_word
    {text : String}
    {t : Tree}
    (hParse : parse text = .ok t) :
    ∃ w, w ≠ .separator ∧
      w.isPlain = CommandLine.isOrdinary text ∧
      ∀ rest,
        (command .equiv).words (text :: rest) =
          ((command .equiv).words rest).map (w :: ·) := by
  have hSeparator := (more_of_parse hParse).2
  rcases kindOf_expression hParse with
    ⟨hOrdinary, hKind⟩ | ⟨hOrdinary, hUnknown | ⟨hit, hHit⟩⟩
  · exact ⟨.plain text, Word.noConfusion, hOrdinary.symm,
      fun rest => words_plain rest hSeparator hKind⟩
  · refine ⟨.unknown text, Word.noConfusion, hOrdinary.symm,
      fun rest => ?_⟩
    rw [words, if_neg hSeparator, hUnknown]
  · exact ⟨.hit hit, Word.noConfusion, hOrdinary.symm,
      fun rest => words_hit rest hSeparator hHit⟩

/- Ordinary expressions are words that are read so. -/
theorem words_expressions
    {left right : String}
    {t u : Tree}
    (seed trials : Option Int)
    (hLeft : parse left = .ok t)
    (hRight : parse right = .ok u)
    (hOrdinary : CommandLine.isOrdinary left = true)
    (hOrdinary₂ : CommandLine.isOrdinary right = true) :
    (command .equiv).words
        (left :: right ::
          (CommandLine.numberWords "--seed" seed
            ++ CommandLine.numberWords "--trials" trials)) =
      .ok (.plain left :: .plain right ::
        (Word.number .seed seed
          ++ Word.number .trials trials)) := by
  rw [words_plain _ (more_of_parse hLeft).2
      (kindOf_of_isOrdinary hLeft hOrdinary),
    words_plain _ (more_of_parse hRight).2
      (kindOf_of_isOrdinary hRight hOrdinary₂),
    words_numbers]
  rfl

end Scope

/- Two operands and their numbers are read in turn. -/
theorem Command.readWords_compared
    {left right : String}
    {seed trials : Option Int}
    (hLeft : left ≠ "--")
    (hRight : right ≠ "--")
    (hSeed : ∀ n ∈ seed, Text.Writable n.natAbs)
    (hTrials : ∀ n ∈ trials, Text.Writable n.natAbs) :
    Command.equiv.readWords .nothing
        (.plain left :: .plain right ::
          (Word.number .seed seed
            ++ Word.number .trials trials)) =
      .ok (.compared left right seed trials) := by
  let numbers := Word.number .seed seed
    ++ Word.number .trials trials
  let one := Given.nothing.addOperand (some left)
  let both := one.addOperand (some right)
  have hNumbers : numbers.head? ≠ some .separator := by
    cases seed <;> cases trials <;> exact nofun
  have hFirst : Given.valueOf left = some left := if_neg hLeft
  have hSecond : Given.valueOf right = some right :=
    if_neg hRight
  have hEnd :
      (both.numbered .seed seed).numbered .trials trials =
        .compared left right seed trials := by
    cases seed <;> cases trials <;> rfl
  calc
    Command.equiv.readWords .nothing
        (.plain left :: .plain right :: numbers)
    _ = Command.equiv.readWords one
          (.plain right :: numbers) := by
        rw [readWords_plain _ _ _ (by simp), hFirst]
        rfl
    _ = Command.equiv.readWords both numbers := by
        rw [readWords_plain _ _ _ hNumbers, hSecond]
        rfl
    _ = .ok (.compared left right seed trials) := by
        rw [readWords_numbers _ _ hSeed hTrials, hEnd]

------------------------------------------------------------
-- Orders of Comparisons
------------------------------------------------------------

namespace Order

/- A command is refused that an operand is wanting for. -/
theorem close_open
    {c : Command}
    {g : Given}
    (before : List String)
    (h : g.operands.length < c.operands.length) :
    ∃ complaint,
      close c before g = .refused (.command c) complaint := by
  have hMissing :
      c.operands.drop g.operands.length ≠ [] := by
    rw [ne_eq, List.drop_eq_nil_iff, not_le]
    exact h
  unfold close
  split
  · next hNone => exact absurd hNone hMissing
  · exact ⟨_, rfl⟩

/- The word of a command is found. -/
theorem read_word
    (c : Command)
    (rest : List String) :
    Order.read (c.word :: rest) = readCommand c [] rest := by
  have hKind : Scope.program.kindOf c.word = .plain := by
    cases c <;> decide
  have hCommand : Command.ofWord? c.word = some c := by
    cases c <;> decide
  have hSeparator : c.word ≠ "--" := by cases c <;> decide
  show readAfter [] (c.word :: rest) = _
  unfold readAfter
  rw [if_neg hSeparator, hKind]
  simp only [hCommand]

/- So is that of a comparison. -/
theorem read_equiv (rest : List String) :
    Order.read ("equiv" :: rest) =
      readCommand .equiv [] rest :=
  read_word .equiv rest

section Equiv

variable {left right : String} {seed trials : Option Int}

variable {t u : Tree}

variable (hLeft : parse left = .ok t)

variable (hRight : parse right = .ok u)

variable (hSeed : ∀ n ∈ seed, Text.Writable n.natAbs)

variable (hTrials : ∀ n ∈ trials, Text.Writable n.natAbs)

include hLeft hRight hSeed hTrials

/- Ordinary expressions are the operands of a comparison. -/
theorem read_equivWords
    (hOrdinary : CommandLine.isOrdinary left = true)
    (hOrdinary₂ : CommandLine.isOrdinary right = true) :
    Order.read
        (CommandLine.equivWords left right seed trials) =
      .command .equiv
        (.compared left right seed trials) := by
  have hWords := Scope.words_expressions seed trials hLeft
    hRight hOrdinary hOrdinary₂
  have hRead := Command.readWords_compared
    (Scope.more_of_parse hLeft).2 (Scope.more_of_parse hRight).2
    hSeed hTrials
  rw [CommandLine.equivWords, read_equiv, readCommand, hWords]
  simp only [hRead]
  rfl

/- Others leave an operand open, or are about flags. -/
theorem read_equivWords_open
    (hSome : seed ≠ none)
    (hOpen :
      (CommandLine.isOrdinary left
        && CommandLine.isOrdinary right) = false) :
    (∃ scope,
      Order.read
          (CommandLine.equivWords left right seed trials) =
        .help scope) ∨
      ∃ scope complaint,
        Order.read
            (CommandLine.equivWords left right seed trials) =
          .refused scope complaint := by
  rcases Scope.exists_word hLeft with
    ⟨v, hSeparator, hPlain, hWord⟩
  rcases Scope.exists_word hRight with
    ⟨w, hSeparator₂, hPlain₂, hWord₂⟩
  rcases Option.ne_none_iff_exists'.mp hSome with ⟨n, rfl⟩
  let hit : Hit := ⟨.seed, .nothing⟩
  let rest := .plain (Text.integer n) :: Word.number .trials trials
  have hWords :
      (Scope.command .equiv).words
          (left :: right ::
            (CommandLine.numberWords "--seed" (some n)
              ++ CommandLine.numberWords "--trials" trials)) =
        .ok ([v, w] ++ .hit hit :: rest) := by
    rw [hWord, hWord₂, Scope.words_numbers]
    rfl
  have hNone : .separator ∉ [v, w] := by
    simp [hSeparator.symm, hSeparator₂.symm]
  have hCount : [v, w].countP Word.isPlain ≤ 1 := by
    rw [← hPlain, ← hPlain₂, Bool.and_eq_false_iff] at hOpen
    rw [List.countP_cons, List.countP_cons, List.countP_nil]
    rcases hOpen with hOpen | hOpen
    · simp only [hOpen, Bool.false_eq_true, if_false]
      split <;> decide
    · simp only [hOpen, Bool.false_eq_true, if_false]
      split <;> decide
  rw [CommandLine.equivWords, read_equiv, readCommand, hWords]
  rcases Command.equiv.readWords_before_hit .nothing hit rest
      hNone with ⟨stop, hStop⟩ | ⟨g, hRead, hLess⟩
  · simp only [hStop]
    cases stop with
    | help => exact .inl ⟨_, rfl⟩
    | complaint complaint => exact .inr ⟨_, complaint, rfl⟩
  · right
    have hNumbers :
        Command.equiv.readWords g (.hit hit :: rest) =
          .ok ((g.numbered .seed (some n)).numbered
            .trials trials) :=
      Command.readWords_numbers _ g hSeed hTrials
    have hOperands :
        ((g.numbered .seed (some n)).numbered
            .trials trials).operands.length <
          Command.equiv.operands.length := by
      have hZero : Given.nothing.operands.length = 0 := rfl
      have hTwo : Command.equiv.operands.length = 2 := rfl
      rw [Given.numbered_operands, Given.numbered_operands]
      omega
    rcases close_open [] hOperands with ⟨complaint, hClose⟩
    simp only [hRead, hNumbers]
    exact ⟨_, complaint, hClose⟩

end Equiv

end Order

end Termwise
