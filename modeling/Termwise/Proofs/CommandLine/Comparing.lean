import Termwise.CommandLine.Run
import Termwise.Proofs.CommandLine.Orders
import Termwise.Proofs.Equivalence.Interchange

/-
  How a run of the program compares two expressions.  If both
  are ordinary words then its exit status tells the verdict,
  and the table that it writes shows the report.  Otherwise
  the comparison is not made: the run writes a help text and
  ends well, or it ends with the status of a disproof.

  Key definitions include:
    * `Transcript.Tells`
    * `Transcript.IsAside`

  Main declarations:
    * `CommandLine.runEquiv_compared`
    * `CommandLine.runOn_equivWords`
    * `CommandLine.runOn_equivWords_open`
    * `CommandLine.runProgram_verdict`
    * `CommandLine.runProgram_negated`
-/

namespace Termwise

------------------------------------------------------------
-- Verdicts
------------------------------------------------------------

/-
  A run on a console shows the table of a report, and its
  exit status tells if the report is one of equivalence.
-/
structure Transcript.Tells
    (console : Console)
    (run : Transcript)
    (r : Report) : Prop where
  table :
    run.out = console.lines (CommandLine.reportTable r)
  equivalent :
    run.ending = .exit 0 ↔ r.equivalent = true
  different :
    run.ending = .exit 2 ↔ r.equivalent = false

/-
  A run shows no report: it writes a help text, or nothing
  but a complaint with the status of a disproof.
-/
def Transcript.IsAside (run : Transcript) : Prop :=
  (∃ scope : Scope, run = .shows scope.help) ∨
    ∃ lines, run = .complains 2 lines

namespace CommandLine

variable {console : Console}

/- The exit status of a check tells its verdict. -/
theorem tells_showRun
    (least : Nat)
    (run : Run) :
    (showRun console least run).Tells console run.report := by
  refine ⟨rfl, ?_, ?_⟩
  · show Ending.exit (exitCode run.report) = .exit 0 ↔ _
    rw [Ending.exit.injEq, exitCode]
    cases run.report.equivalent <;> decide
  · show Ending.exit (exitCode run.report) = .exit 2 ↔ _
    rw [Ending.exit.injEq, exitCode]
    cases run.report.equivalent <;> decide

/- So it does after lines of the log. -/
theorem tells_after
    {run : Transcript}
    {r : Report}
    (h : run.Tells console r)
    (lines : List String) :
    (run.after lines).Tells console r :=
  ⟨h.table, h.equivalent, h.different⟩

/- A check that has a report is shown with the report. -/
theorem tells_equivTrees
    {cfg : Config}
    {t u : Tree}
    {source source₂ : Twister}
    {report : Report}
    (least : Nat)
    (hCheck : check cfg t u source = (.ok report, source₂)) :
    (equivTrees console least cfg source t u).Tells console
      report := by
  unfold check at hCheck
  split at hCheck
  · next run source₃ hRun =>
      cases hCheck
      rw [equivTrees, hRun]
      exact tells_showRun least run
  · cases hCheck

------------------------------------------------------------
-- Comparisons
------------------------------------------------------------

/- A run with its settings does what its words ask for. -/
theorem runOn_eq
    {env : List (String × String)}
    {s : Settings}
    {least : Nat}
    (console : Console)
    (fresh : Twister)
    (words : List String)
    (input : String)
    (hSettings : Settings.read [] env = .ok s)
    (hLevel :
      LogLevel.threshold? (Text.capitals s.logLevel) =
        some least) :
    runOn console env fresh words input =
      runOrder console s least fresh input
        (Order.read words) := by
  rw [runOn, hSettings]
  simp only [runWith, hLevel]

section Compared

variable {s : Settings} {cfg : Config}

variable {left right : String} {t u : Tree}

variable {seed trials : Option Int}

variable (hLeft : parse left = .ok t)

variable (hRight : parse right = .ok u)

include hLeft hRight

/- What is given for a comparison is checked and shown. -/
theorem runEquiv_compared
    {report : Report}
    {source : Twister}
    (least : Nat)
    (fresh : Twister)
    (hConfig : s.config trials = .ok cfg)
    (hCheck :
      check cfg t u (s.source seed fresh) =
        (.ok report, source)) :
    (runEquiv console s least fresh
      (.compared left right seed trials)).Tells console
        report := by
  have hTrials : ∀ next,
      withNumber .trials (trials.map some) next =
        next trials := by
    cases trials <;> exact fun _ => rfl
  have hSeed : ∀ next,
      withNumber .seed (seed.map some) next = next seed := by
    cases seed <;> exact fun _ => rfl
  -- The lines of the log stand in the order of the reading.
  have hRun :
      runEquiv console s least fresh
          (.compared left right seed trials) =
        ((equivTrees console least cfg (s.source seed fresh)
          t u).after
          (LogRecord.shownFrom least [.ofParsed right])).after
          (LogRecord.shownFrom least [.ofParsed left]) := by
    show withTree least left (fun t =>
      withTree least right fun u =>
        withNumber .trials (trials.map some) fun trials =>
          withConfig (s.config trials) fun cfg =>
            withNumber .seed (seed.map some) fun seed =>
              equivTrees console least cfg
                (s.source seed fresh) t u) = _
    simp only [withTree, hLeft, hRight, hTrials, hConfig,
      withConfig, hSeed]
  rw [hRun]
  exact tells_after (tells_after
    (tells_equivTrees least hCheck) _) _

variable {env : List (String × String)} {least : Nat}

variable (hSettings : Settings.read [] env = .ok s)

variable
  (hLevel :
    LogLevel.threshold? (Text.capitals s.logLevel) = some least)

variable (hSeed : ∀ n ∈ seed, Text.Writable n.natAbs)

variable (hTrials : ∀ n ∈ trials, Text.Writable n.natAbs)

include hSettings hLevel hSeed hTrials

/- A run that compares ordinary expressions tells a verdict. -/
theorem runOn_equivWords
    {report : Report}
    {source : Twister}
    (fresh : Twister)
    (input : String)
    (hOrdinary : isOrdinary left = true)
    (hOrdinary₂ : isOrdinary right = true)
    (hConfig : s.config trials = .ok cfg)
    (hCheck :
      check cfg t u (s.source seed fresh) =
        (.ok report, source)) :
    (runOn console env fresh
      (equivWords left right seed trials) input).Tells console
        report := by
  rw [runOn_eq console fresh _ input hSettings hLevel,
    Order.read_equivWords hLeft hRight hSeed hTrials hOrdinary
      hOrdinary₂]
  exact runEquiv_compared hLeft hRight least fresh hConfig
    hCheck

/- A run with other expressions and a seed tells none. -/
theorem runOn_equivWords_open
    (fresh : Twister)
    (input : String)
    (hSome : seed ≠ none)
    (hOpen : (isOrdinary left && isOrdinary right) = false) :
    (runOn console env fresh
      (equivWords left right seed trials) input).IsAside := by
  rw [runOn_eq console fresh _ input hSettings hLevel]
  rcases Order.read_equivWords_open hLeft hRight hSeed hTrials
      hSome hOpen with
    ⟨scope, hHelp⟩ | ⟨scope, complaint, hRefused⟩
  · rw [hHelp]
    exact .inl ⟨scope, rfl⟩
  · rw [hRefused]
    exact .inr ⟨_, rfl⟩

end Compared

------------------------------------------------------------
-- Standard Settings
------------------------------------------------------------

/- The standard level of the log is known. -/
theorem standard_level :
    LogLevel.threshold?
        (Text.capitals Settings.standard.logLevel) =
      some 20 := by
  decide +kernel

/- The standard tolerance can be compared with. -/
theorem exists_standard_tolerance :
    ∃ q, Config.standard.tolerance.toRat? = some q ∧ 0 ≤ q :=
  ⟨Double.magnitude 7378697629483821 (-66), rfl, by decide⟩

/-
  By the standard settings two expressions that are ordinary
  words are compared with a seed, and on every console the
  exit status tells the verdict of the check: zero for
  equivalence and two for a counterexample.  If one of the
  expressions is no ordinary word then no verdict is told,
  and the exit status is zero or two all the same.
-/
theorem runProgram_verdict
    {env : List (String × String)}
    {left right : String}
    {t u : Tree}
    {n : Int}
    (console : Console)
    (fresh : Twister)
    (input : String)
    (hSettings : Settings.read [] env = .ok .standard)
    (hLeft : parse left = .ok t)
    (hRight : parse right = .ok u)
    (hSeed : Text.Writable n.natAbs) :
    ∃ report source,
      check Config.standard t u (Twister.ofSeed n) =
        (.ok report, source) ∧
      ((isOrdinary left && isOrdinary right) = true →
        (runOn console env fresh
          ["equiv", left, right, "--seed", Text.integer n]
          input).Tells console report) ∧
      ((isOrdinary left && isOrdinary right) = false →
        (runOn console env fresh
          ["equiv", left, right, "--seed", Text.integer n]
          input).IsAside) := by
  rcases exists_standard_tolerance with ⟨q, hTolerance, _⟩
  have hNumber : ∀ m ∈ some n, Text.Writable m.natAbs := by
    intro m hm
    cases hm
    exact hSeed
  have hNone : ∀ m ∈ (none : Option Int),
      Text.Writable m.natAbs := by
    intro m hm
    cases hm
  have hConfig :
      Settings.standard.config none = .ok Config.standard := rfl
  have hWords :
      ["equiv", left, right, "--seed", Text.integer n] =
        equivWords left right (some n) none := rfl
  rcases exists_check_eq_ok hTolerance t u (Twister.ofSeed n)
    with ⟨report, source, hCheck⟩
  rw [hWords]
  refine ⟨report, source, hCheck, ?_, ?_⟩
  · intro hOrdinary
    rcases Bool.and_eq_true_iff.mp hOrdinary with
      ⟨hFirst, hSecond⟩
    exact runOn_equivWords hLeft hRight hSettings
      standard_level hNumber hNone fresh input hFirst hSecond
      hConfig hCheck
  · intro hOpen
    exact runOn_equivWords_open hLeft hRight hSettings
      standard_level hNumber hNone fresh input
      (Option.some_ne_none n) hOpen

/- A negated variable is an operand with a blank in it. -/
theorem runProgram_verdict_blank :
    let t : Tree := .bin .add (.neg (.var "x")) (.num 0)
    let run := runProgram [] (Twister.ofSeed 0)
      ["equiv", "-x + 0", "-x + 0", "--seed", Text.integer (-4)]
      ""
    Settings.read [] [] = .ok .standard ∧
      parse "-x + 0" = .ok t ∧
      Text.Writable (-4 : Int).natAbs ∧
      ∃ report source,
        check Config.standard t t (Twister.ofSeed (-4)) =
          (.ok report, source) ∧
        run.Tells .wide report := by
  intro t run
  have hSettings : Settings.read [] [] = .ok .standard := rfl
  have hParse : parse "-x + 0" = .ok t := by cbv
  have hSeed : Text.Writable (-4 : Int).natAbs := by
    decide +kernel
  rcases runProgram_verdict .wide (Twister.ofSeed 0) ""
      hSettings hParse hParse hSeed with
    ⟨report, source, hCheck, hTells, _⟩
  exact ⟨hSettings, hParse, hSeed, report, source, hCheck,
    hTells (by decide)⟩

/-
  Without a blank it is none: a comparison with itself is
  refused with the status of a disproof, although the check
  finds the two equivalent.
-/
theorem runProgram_negated :
    let t : Tree := .neg (.var "x")
    let run := runProgram [] (Twister.ofSeed 0)
      ["equiv", "-x", "-x", "--seed", "1"] ""
    Settings.read [] [] = .ok .standard ∧
      parse "-x" = .ok t ∧
      (∃ report source,
        check Config.standard t t (Twister.ofSeed 1) =
          (.ok report, source) ∧
        report.equivalent = true) ∧
      run.out = [] ∧ run.ending = .exit 2 := by
  intro t run
  have hSettings : Settings.read [] [] = .ok .standard := rfl
  have hParse : parse "-x" = .ok t := by cbv
  rcases exists_standard_tolerance with
    ⟨q, hTolerance, hNonneg⟩
  have hRead :
      Order.read ["equiv", "-x", "-x", "--seed", "1"] =
        .refused (.command .equiv)
          (.absent ["expr1", "expr2"]) := by
    decide +kernel
  have hRun := runOn_eq .wide (Twister.ofSeed 0)
    ["equiv", "-x", "-x", "--seed", "1"] "" hSettings
    standard_level
  rw [hRead] at hRun
  refine ⟨hSettings, hParse, check_self hTolerance hNonneg t _,
    ?_, ?_⟩
  · exact congrArg Transcript.out hRun
  · exact congrArg Transcript.ending hRun

end CommandLine

end Termwise
