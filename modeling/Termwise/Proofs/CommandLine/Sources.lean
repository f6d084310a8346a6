import Termwise.Proofs.CommandLine.Comparing
import Termwise.Proofs.CommandLine.Texts
import Termwise.Proofs.Syntax.Moving

/-
  A command that takes one expression may be given its text
  by `--text` or by the input.  The text of the input is
  trimmed and the other one is not, but the run shows the
  same and ends the same way.  A fault is told of with the
  same words, at a place that is further to the right by the
  blank characters in front of the text.

  A value `--` is no text: the run reads its input instead.

  Key definitions include:
    * `Transcript.Matches`
    * `Transcript.Displaced`

  Main declarations:
    * `CommandLine.withTree_displaced`
    * `CommandLine.withSource_matches`
    * `CommandLine.withSource_displaced`
    * `CommandLine.runOn_cases`
    * `CommandLine.runOn_source`
    * `CommandLine.runProgram_text`
    * `CommandLine.runProgram_hyphens`
-/

namespace Termwise

------------------------------------------------------------
-- Likeness of Runs
------------------------------------------------------------

namespace Transcript

/- Two runs show the same and end the same way. -/
structure Matches (run other : Transcript) : Prop where
  out : run.out = other.out
  ending : run.ending = other.ending

/-
  How two runs answer for a text with a fault that the first
  one finds `k` characters further to the right:
    * `failed`: neither comes to read the text.
    * `unplaced`: the fault has no place.
    * `placed`: they complain with the same words, but each
      of them tells its own place.
-/
inductive Displaced
    (k : Nat)
    (fault : SyntaxFault)
    (run other : Transcript) : Prop
| failed
    (f : Failure)
    (hRun : run = .fails f)
    (hOther : other = .fails f)
| unplaced
    (line : String)
    (hPosition : fault.position = none)
    (hRun : run = .complains 1 [line])
    (hOther : other = .complains 1 [line])
| placed
    (stem : String)
    (n : Nat)
    (hPosition : fault.position = some (n + k))
    (hRun : run =
      .complains 1 [stem ++ SyntaxFault.atPosition (n + k)])
    (hOther : other =
      .complains 1 [stem ++ SyntaxFault.atPosition n])

/- The lines of the log make no difference to that. -/
theorem matches_after
    (run : Transcript)
    (lines lines₂ : List String) :
    (run.after lines).Matches (run.after lines₂) :=
  ⟨rfl, rfl⟩

end Transcript

namespace CommandLine

------------------------------------------------------------
-- Reading
------------------------------------------------------------

section Reading

variable {text : String}

/- A blank text is cut short. -/
theorem parse_of_trim_eq_nil
    (h : Text.trim Text.isBlank text.toList = []) :
    parse text = .error (.cutShort .operand) := by
  have hNone :
      parse (String.ofList []) =
        .error (.cutShort .operand) := by cbv
  rw [parse_trim, h, hNone]
  rfl

variable (least : Nat) (next : Tree → Transcript)

/- A text that is read untrimmed is answered the same way. -/
theorem withTree_matches :
    (withTree least text next).Matches
      (withTree least
        (String.ofList (Text.trim Text.isBlank text.toList))
        next) := by
  have hMoved := parse_trim text
  cases hTrimmed : parse (String.ofList
      (Text.trim Text.isBlank text.toList)) with
  | error f =>
      rw [hTrimmed, movedBy] at hMoved
      simp only [withTree, hMoved, hTrimmed]
      exact ⟨rfl, rfl⟩
  | ok t =>
      rw [hTrimmed, movedBy, id] at hMoved
      simp only [withTree, hMoved, hTrimmed]
      exact Transcript.matches_after (next t) _ _

/- But its fault is found further to the right. -/
theorem withTree_displaced
    {fault : SyntaxFault}
    (hFault : parse text = .error fault) :
    Transcript.Displaced
      (text.toList.takeWhile Text.isBlank).length fault
      (withTree least text next)
      (withTree least
        (String.ofList (Text.trim Text.isBlank text.toList))
        next) := by
  let k := (text.toList.takeWhile Text.isBlank).length
  have hMoved := parse_trim text
  cases hTrimmed : parse (String.ofList
      (Text.trim Text.isBlank text.toList)) with
  | ok t =>
      rw [hTrimmed, hFault] at hMoved
      cases hMoved
  | error f =>
      rw [hTrimmed, hFault] at hMoved
      cases hMoved
      have hPosition := f.position_moved k
      simp only [withTree, hFault, hTrimmed]
      rcases f.message_moved k with
        ⟨hNone, hSame⟩ | ⟨stem, n, hSome, hMessage, hMessage₂⟩
      · rw [hNone] at hPosition
        refine .unplaced _ hPosition rfl ?_
        rw [hSame]
      · rw [hSome] at hPosition
        refine .placed ("Błąd składni: " ++ stem) n hPosition
          ?_ ?_
        · rw [hMessage₂, String.append_assoc]
        · rw [hMessage, String.append_assoc]

end Reading

------------------------------------------------------------
-- Sources
------------------------------------------------------------

section Sources

variable {text : String}

variable (least : Nat) (next : Tree → Transcript) (g : Given)

/- A text that is given is read, whatever the input is. -/
theorem withSource_given
    (h : text ≠ "")
    (input : String) :
    withSource least (g.withText (some text)) input next =
      withTree least text next := by
  have hSome : text.isEmpty = false := by
    rw [Bool.eq_false_iff]
    exact fun hEmpty => h (String.isEmpty_iff.mp hEmpty)
  simp only [withSource, Given.withText, sourceText, hSome,
    Bool.false_eq_true, if_false]

/- An input that is blank is no expression. -/
theorem withSource_blank
    (h : Text.trim Text.isBlank text.toList = []) :
    withSource least (g.withText none) text next =
      noExpression := by
  simp only [withSource, Given.withText, sourceText,
    sourceText.ofInput, h]

/- Another input is read without the blanks around it. -/
theorem withSource_input
    (h : Text.trim Text.isBlank text.toList ≠ []) :
    withSource least (g.withText none) text next =
      withTree least
        (String.ofList (Text.trim Text.isBlank text.toList))
        next := by
  cases hTrim : Text.trim Text.isBlank text.toList with
  | nil => exact absurd hTrim h
  | cons first rest =>
      simp only [withSource, Given.withText, sourceText,
        sourceText.ofInput, hTrim]

/- A text is answered the same way if it is the input. -/
theorem withSource_matches
    (h : text ≠ "")
    (input : String) :
    (withSource least (g.withText (some text)) input
      next).Matches
        (withSource least (g.withText none) text next) := by
  rw [withSource_given least next g h]
  by_cases hBlank : Text.trim Text.isBlank text.toList = []
  · rw [withSource_blank least next g hBlank, withTree,
      parse_of_trim_eq_nil hBlank]
    exact ⟨rfl, rfl⟩
  · rw [withSource_input least next g hBlank]
    exact withTree_matches least next

/- If it is not blank then its fault is told of as well. -/
theorem withSource_displaced
    {fault : SyntaxFault}
    (h : ∃ ch ∈ text.toList, Text.isBlank ch = false)
    (hFault : parse text = .error fault)
    (input : String) :
    Transcript.Displaced
      (text.toList.takeWhile Text.isBlank).length fault
      (withSource least (g.withText (some text)) input next)
      (withSource least (g.withText none) text next) := by
  rcases h with ⟨ch, hMem, hOther⟩
  have hSome : text ≠ "" := by
    intro hEmpty
    rw [hEmpty] at hMem
    cases hMem
  have hKept : Text.trim Text.isBlank text.toList ≠ [] := by
    intro hBlank
    rw [Text.all_of_trim_eq_nil hBlank ch hMem] at hOther
    cases hOther
  rw [withSource_given least next g hSome,
    withSource_input least next g hKept]
  exact withTree_displaced least next hFault

end Sources

------------------------------------------------------------
-- Runs
------------------------------------------------------------

/-
  A command that has a switch goes on with the tree of its
  text in a way that does not depend on the text.
-/
theorem runCommand_eq_withSource
    {c : Command}
    {f : Flag}
    (hSwitch : c.switch? = some f)
    (console : Console)
    (s : Settings)
    (least : Nat)
    (fresh : Twister)
    (g : Given) :
    ∃ next, ∀ text input,
      runCommand console s least fresh input
          (g.withText text) c =
        withSource least (g.withText text) input next := by
  cases c with
  | parse => exact ⟨parseTree console g.json, fun _ _ => rfl⟩
  | eval =>
      exact ⟨evalTree console least g.steps, fun _ _ => rfl⟩
  | render => exact ⟨renderTree g.typeset, fun _ _ => rfl⟩
  | equiv => cases hSwitch

/-
  A run fails before it looks at its words, whatever they
  are, or it does what they ask for.
-/
theorem runOn_cases
    (console : Console)
    (env : List (String × String))
    (fresh : Twister) :
    (∃ failure, ∀ words input,
      runOn console env fresh words input = .fails failure) ∨
    ∃ s least, ∀ words input,
      runOn console env fresh words input =
        runOrder console s least fresh input
          (Order.read words) := by
  cases hSettings : Settings.read [] env with
  | error issues =>
      refine .inl ⟨.settings issues, fun words input => ?_⟩
      rw [runOn, hSettings]
  | ok s =>
      cases hLevel :
          LogLevel.threshold? (Text.capitals s.logLevel) with
      | none =>
          refine .inl ⟨.level (Text.capitals s.logLevel),
            fun words input => ?_⟩
          rw [runOn, hSettings]
          simp only [runWith, hLevel]
      | some least =>
          exact .inr ⟨s, least, fun words input =>
            runOn_eq console fresh words input hSettings
              hLevel⟩

section Texts

variable {c : Command} {f : Flag} {before after : List String}

variable (console : Console)

variable (env : List (String × String)) (fresh : Twister)

variable (hSwitch : c.switch? = some f)

variable (hBefore : ∀ w ∈ before, w ∈ f.spellings)

variable (hAfter : ∀ w ∈ after, w ∈ f.spellings)

include hSwitch hBefore hAfter

/-
  With a text between its switches or without one, a command
  fails before it is read, or it reads its source and goes on
  in one way.
-/
theorem runOn_source :
    (∃ failure, ∀ words input,
      runOn console env fresh words input = .fails failure) ∨
    ∃ (least : Nat) (g : Given) (next : Tree → Transcript),
      (∀ text input,
        runOn console env fresh
            (c.word :: before ++ ("--text=" ++ text) :: after)
            input =
          withSource least (g.withText (Given.valueOf text))
            input next) ∧
      ∀ input,
        runOn console env fresh
            (c.word :: (before ++ after)) input =
          withSource least (g.withText none) input next := by
  let g := (Given.switch f)^[(before ++ after).length] .nothing
  have hNone : g = g.withText none := by
    have hText := (Given.iterate_switch_nothing f
      (before ++ after).length).1
    show g = { g with text := none }
    rw [← hText]
  have hSwitches : ∀ w ∈ before ++ after, w ∈ f.spellings := by
    intro w hw
    rcases List.mem_append.mp hw with hFirst | hSecond
    · exact hBefore w hFirst
    · exact hAfter w hSecond
  have hBare :
      Order.read (c.word :: (before ++ after)) =
        .command c (g.withText none) := by
    rw [← hNone]
    exact Order.read_switches hSwitch hSwitches
  rcases runOn_cases console env fresh with
    hFails | ⟨s, least, hRuns⟩
  · exact .inl hFails
  · rcases runCommand_eq_withSource hSwitch console s least
        fresh g with
      ⟨next, hNext⟩
    refine .inr ⟨least, g, next, ?_, ?_⟩
    · intro text input
      rw [hRuns, Order.read_text hSwitch hBefore hAfter,
        runOrder, hNext]
    · intro input
      rw [hRuns, hBare, runOrder, hNext]

/-
  A command may be given its text by `--text`, before or
  behind its switch, or by the input.  The runs show the same
  and end the same way, for every text but the empty one and
  `--`; and if a text that is not blank has a fault then the
  messages differ by the place at most.  A text that is empty
  or `--` is not looked at: the input is read in its place.
-/
theorem runProgram_text (text : String) :
    let given := runOn console env fresh
      (c.word :: before ++ ("--text=" ++ text) :: after)
    let bare := runOn console env fresh
      (c.word :: (before ++ after))
    let k := (text.toList.takeWhile Text.isBlank).length
    (text ≠ "" → text ≠ "--" → ∀ input,
      (given input).Matches (bare text) ∧
      ((∃ ch ∈ text.toList, Text.isBlank ch = false) →
        ∀ fault, parse text = .error fault →
          Transcript.Displaced k fault
            (given input) (bare text))) ∧
    (text = "" ∨ text = "--" →
      ∀ input, given input = bare input) := by
  intro given bare k
  rcases runOn_source console env fresh hSwitch hBefore hAfter
    with
    ⟨failure, hFails⟩ | ⟨least, g, next, hGiven, hBare⟩
  · have hFirst : ∀ input, given input = .fails failure :=
      hFails _
    have hSecond : ∀ input, bare input = .fails failure :=
      hFails _
    constructor
    · intro _ _ input
      rw [hFirst, hSecond]
      exact ⟨⟨rfl, rfl⟩, fun _ _ _ => .failed failure rfl rfl⟩
    · intro _ input
      rw [hFirst, hSecond]
  · have hFirst : ∀ input, given input =
        withSource least (g.withText (Given.valueOf text)) input
          next :=
      hGiven text
    have hSecond : ∀ input, bare input =
        withSource least (g.withText none) input next :=
      hBare
    constructor
    · intro hSome hOther input
      have hValue : Given.valueOf text = some text :=
        if_neg hOther
      rw [hFirst, hSecond, hValue]
      exact ⟨withSource_matches least next g hSome input,
        fun hText fault hFault =>
          withSource_displaced least next g hText hFault input⟩
    · intro hNone input
      rw [hFirst, hSecond]
      rcases hNone with rfl | rfl <;> rfl

end Texts

/- A text with a fault and two blanks, between switches. -/
theorem runProgram_text_fault :
    let given := runProgram [] (Twister.ofSeed 0)
      ["eval", "-s", "--text=  1 + $", "--steps"] "x"
    let bare := runProgram [] (Twister.ofSeed 0)
      ["eval", "-s", "--steps"] "  1 + $"
    Command.eval.switch? = some .steps ∧
      (∀ w ∈ ["-s"], w ∈ Flag.steps.spellings) ∧
      (∀ w ∈ ["--steps"], w ∈ Flag.steps.spellings) ∧
      parse "  1 + $" = .error (.strayCharacter '$' 6) ∧
      given.Matches bare ∧
      Transcript.Displaced 2 (.strayCharacter '$' 6)
        given bare := by
  intro given bare
  have hSwitch : Command.eval.switch? = some .steps := rfl
  have hBefore : ∀ w ∈ ["-s"], w ∈ Flag.steps.spellings := by
    decide
  have hAfter :
      ∀ w ∈ ["--steps"], w ∈ Flag.steps.spellings := by
    decide
  have hParse :
      parse "  1 + $" = .error (.strayCharacter '$' 6) := by cbv
  have hText := (runProgram_text .wide [] (Twister.ofSeed 0)
    hSwitch hBefore hAfter "  1 + $").1 (by decide) (by decide)
      "x"
  refine ⟨hSwitch, hBefore, hAfter, hParse, hText.1, ?_⟩
  exact hText.2 ⟨'1', by decide, by decide⟩ _ hParse

/-
  A value `--` is none, so the input is read that the flag
  should have replaced.  A run that is given `--` as its
  input refuses it.
-/
theorem runProgram_hyphens :
    let given := runProgram [] (Twister.ofSeed 0)
      ["parse", "--text=--", "--json"] "x"
    let bare := runProgram [] (Twister.ofSeed 0)
      ["parse", "--json"] "--"
    given.ending = .exit 0 ∧ bare.ending = .exit 1 := by
  intro given bare
  have hSettings : Settings.read [] [] = .ok .standard := rfl
  have hParse : parse "x" = .ok (.var "x") := by cbv
  have hParse₂ : parse "--" = .error (.cutShort .operand) := by
    cbv
  have hGiven := runOn_eq .wide (Twister.ofSeed 0)
    ["parse", "--text=--", "--json"] "x" hSettings
    standard_level
  have hBare := runOn_eq .wide (Twister.ofSeed 0)
    ["parse", "--json"] "--" hSettings standard_level
  have hRead :
      Order.read ["parse", "--text=--", "--json"] =
        .command .parse { Given.nothing with json := true } := by
    decide +kernel
  have hRead₂ :
      Order.read ["parse", "--json"] =
        .command .parse { Given.nothing with json := true } := by
    decide +kernel
  rw [hRead] at hGiven
  rw [hRead₂] at hBare
  constructor
  · refine (congrArg Transcript.ending hGiven).trans ?_
    show (withTree 20 "x" (parseTree .wide true)).ending = _
    rw [withTree, hParse]
    rfl
  · refine (congrArg Transcript.ending hBare).trans ?_
    show (withTree 20 "--" (parseTree .wide true)).ending = _
    rw [withTree, hParse₂]
    rfl

end CommandLine

end Termwise
