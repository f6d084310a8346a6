import Termwise.Proofs.CommandLine.Comparing
import Termwise.Proofs.CommandLine.Reports
import Termwise.Proofs.Print.Rereading
import Termwise.Proofs.Service.Comparisons

/-
  The program and the service give one verdict.  Under the
  settings of one environment the comparison of two texts on
  the command line, the same comparison in the body of a
  request, and the check of the two trees lead to the same
  report.  It is told by the exit status of the program, it
  is read from the lines of its table if the console has room
  for that, and it is read from the answer of the service.

  Main declarations:
    * `Settings.short_of_read`
    * `Settings.exists_check`
    * `surfaces_agree`
-/

namespace Termwise

------------------------------------------------------------
-- Settings of an Environment
------------------------------------------------------------

namespace Settings

/- An environment has nothing but texts. -/
theorem short_environmentFields
    (env : List (String × String)) :
    Json.Everywhere Json.IsShort
      (.object (environmentFields env)) := by
  rw [Json.everywhere_object]
  intro f hf
  rw [environmentFields, List.mem_reverse,
    List.mem_filterMap] at hf
  rcases hf with ⟨⟨name, value⟩, _, hField⟩
  rcases Option.map_eq_some_iff.mp hField with ⟨key, _, rfl⟩
  trivial

/- A setting that is read from texts can be written. -/
theorem writable_setting
    {fields : List (String × Json)}
    {key : String}
    {default n : Int}
    (hShort : Json.Everywhere Json.IsShort (.object fields))
    (hDefault : Text.Writable default.natAbs)
    (h :
      defaulted key fields (Checked.taken Scalar.integer)
          default =
        .ok n) :
    Text.Writable n.natAbs := by
  rcases defaulted_eq_ok h with rfl | ⟨v, hField, hTaken⟩
  · exact hDefault
  · exact Scalar.writable_of_integer
      (Json.everywhere_of_lookup? hShort hField)
      (Checked.taken_eq_ok.mp hTaken)

/- So can all integers of a check that are read from them. -/
theorem short_of_ofFields
    {fields : List (String × Json)}
    {s : Settings}
    (hShort : Json.Everywhere Json.IsShort (.object fields))
    (h : ofFields fields = .ok s) :
    s.Short := by
  rcases map_eq_ok.mp h with ⟨values, hAll, rfl⟩
  rcases values with ⟨trials, low, high, rest⟩
  rcases Checked.both_eq_ok.mp hAll with ⟨hTrials, hRest⟩
  rcases Checked.both_eq_ok.mp hRest with ⟨hLow, hRest⟩
  rcases Checked.both_eq_ok.mp hRest with ⟨hHigh, _⟩
  exact
    ⟨writable_setting hShort (by decide +kernel) hTrials,
      writable_setting hShort (by decide +kernel) hLow,
      writable_setting hShort (by decide +kernel) hHigh⟩

/- Settings of an environment have short integers. -/
theorem short_of_read
    {env : List (String × String)}
    {s : Settings}
    (h : Settings.read [] env = .ok s) :
    s.Short :=
  short_of_ofFields (short_environmentFields env) h

/-
  Settings with a range and a finite tolerance make a check
  of any number of trials but none, and every two trees have
  a report by it.
-/
theorem exists_check
    {s : Settings}
    {trials : Option Int}
    (t u : Tree)
    (source : Twister)
    (hRange : s.low < s.high)
    (hTolerance : s.tolerance.isFinite = true)
    (hTrials : 0 < trials.getD s.trials) :
    ∃ cfg report source₂,
      s.config trials = .ok cfg ∧
      check cfg t u source = (.ok report, source₂) := by
  have hConfig : ∃ cfg, s.config trials = .ok cfg := by
    unfold config Config.make
    rw [dif_pos hTrials, dif_pos hRange]
    exact ⟨_, rfl⟩
  rcases hConfig with ⟨cfg, hConfig⟩
  rcases Config.make_eq_ok hConfig with ⟨_, _, _, _, _, hSame⟩
  rcases Double.exists_toRat? hTolerance with ⟨q, hValue⟩
  rw [← hSame] at hValue
  rcases exists_check_eq_ok hValue t u source with
    ⟨report, source₂, hCheck⟩
  exact ⟨cfg, report, source₂, hConfig, hCheck⟩

/- A seed that is given, or one of its own, is the source. -/
theorem source_eq
    {s : Settings}
    {seed : Option Int}
    {n : Int}
    (fresh : Twister)
    (h : seed.or s.seed = some n) :
    s.source seed fresh = Twister.ofSeed n := by
  rw [source, h]

end Settings

------------------------------------------------------------
-- The Surfaces
------------------------------------------------------------

/-
  Two expressions, of which none starts with a hyphen, are
  compared on the command line and by a request, with the
  same seed and the same number of trials, or with those of
  the settings.  There is one report for both, that of the
  check of the two trees, and it is one of equivalence just
  if it has no counterexample.

  The program shows the table of the report and ends with its
  verdict.  The rows of the table are read as the report, and
  so are the lines on every console that is wide enough.  The
  service answers with the report.  The answer can be sent,
  and it determines the report unless a value in it is not
  finite.
-/
theorem surfaces_agree
    {env : List (String × String)}
    {s : Settings}
    {r : Request}
    {left right : String}
    {t u : Tree}
    {seed trials : Option Int}
    {l : Json.Layout}
    (console : Console)
    (fresh fresh₂ : Twister)
    (input : String)
    (hSettings : Settings.read [] env = .ok s)
    (hLevel :
      (LogLevel.threshold? (Text.capitals s.logLevel)).isSome =
        true)
    (hRange : s.low < s.high)
    (hTolerance : s.tolerance.isFinite = true)
    (hLeft : parse left = .ok t)
    (hRight : parse right = .ok u)
    (hLength : left.length ≤ Submission.textLimit)
    (hLength₂ : right.length ≤ Submission.textLimit)
    (hHead : left.toList.head? ≠ some '-')
    (hHead₂ : right.toList.head? ≠ some '-')
    (hSeed : ∀ n ∈ seed, Text.Writable n.natAbs)
    (hTrials : ∀ n ∈ trials, 1 ≤ n ∧ n ≤ 1000)
    (hOwnSeed : seed = none → s.seed.isSome = true)
    (hOwnTrials : trials = none → 1 ≤ s.trials)
    (hMethod : r.method.toUpper = "POST")
    (hRoute : Route.ofTarget r.target = .endpoint .equivalence)
    (hMedia : Service.isJsonMedia r.media = true)
    (hBody :
      r.body =
        Json.write l
          (.object (Json.comparison left right seed trials))) :
    ∃ cfg n report source,
      s.config trials = .ok cfg ∧
      (cfg.trials = trials.getD s.trials ∧ cfg.low = s.low ∧
        cfg.high = s.high ∧ cfg.tolerance = s.tolerance) ∧
      seed.or s.seed = some n ∧
      check cfg t u (Twister.ofSeed n) =
        (.ok report, source) ∧
      report.equivalent = report.counterexample.isNone ∧
      (let run := CommandLine.runOn console env fresh
        (CommandLine.equivWords left right seed trials) input
      run.Tells console report ∧
        Report.ofRows? (CommandLine.reportRows report) =
          some report ∧
        ((CommandLine.reportTable report).width ≤
            console.columns →
          Report.ofLines? run.out = some report)) ∧
      Service.serve s fresh₂ r =
        .fulfilled (.object [("report", report.toJson)]) ∧
      Json.Everywhere Json.IsSent report.toJson ∧
      (report.IsFinite → ∀ other : Report,
        other.toJson = report.toJson → other = report) := by
  rcases Option.isSome_iff_exists.mp hLevel with
    ⟨least, hLeast⟩
  have hNumber : ∃ n, seed.or s.seed = some n := by
    cases seed with
    | none => exact Option.isSome_iff_exists.mp (hOwnSeed rfl)
    | some n => exact ⟨n, rfl⟩
  rcases hNumber with ⟨n, hNumber⟩
  have hPositive : 0 < trials.getD s.trials := by
    cases trials with
    | none => exact hOwnTrials rfl
    | some m => exact (hTrials m rfl).1
  have hWritable : ∀ m ∈ trials, Text.Writable m.natAbs :=
    fun m hm => Text.writable_of_trials (hTrials m hm)
  rcases Settings.exists_check t u (Twister.ofSeed n) hRange
      hTolerance hPositive with
    ⟨cfg, report, source, hConfig, hCheck⟩
  rcases Config.make_eq_ok hConfig with
    ⟨_, _, hCount, hLow, hHigh, hSame⟩
  have hProgram :
      check cfg t u (s.source seed fresh) =
        (.ok report, source) := by
    rw [Settings.source_eq fresh hNumber]
    exact hCheck
  have hService :
      check cfg t u (s.source seed fresh₂) =
        (.ok report, source) := by
    rw [Settings.source_eq fresh₂ hNumber]
    exact hCheck
  have hLegible : report.IsLegible :=
    isLegible_of_check (lettered_of_parse hLeft)
      (lettered_of_parse hRight) hCheck
  have hTells :
      (CommandLine.runOn console env fresh
        (CommandLine.equivWords left right seed trials)
        input).Tells console report :=
    CommandLine.runOn_equivWords hLeft hRight hSettings hLeast
      hSeed hWritable fresh input
      (CommandLine.isOrdinary_of_head hHead)
      (CommandLine.isOrdinary_of_head hHead₂) hConfig hProgram
  refine ⟨cfg, n, report, source, hConfig,
    ⟨by omega, hLow, hHigh, hSame⟩, hNumber, hCheck,
    equivalent_of_check hCheck,
    ⟨hTells, Report.ofRows?_reportRows hLegible, ?_⟩, ?_, ?_,
    fun hFinite other => Report.toJson_injective hFinite⟩
  · intro hRoom
    rw [hTells.table]
    exact Report.ofLines?_console hLegible hRoom
  · exact Service.serve_comparison hLeft hRight hConfig fresh₂
      hService hLength hLength₂ hSeed hTrials hMethod hRoute
      hMedia hBody
  · have hAnswer := Service.compareAnswer_texts hLeft hRight
      hConfig fresh₂ hService
    have hSent := Service.sends_compareAnswer fresh₂
      (Settings.short_of_read hSettings) hTrials _ hAnswer
    exact hSent.1

/- The sum of a variable and itself is its product with 2. -/
theorem outcome_double (value? : String → Option Int) :
    ((Tree.bin .add (.var "x") (.var "x")).substitute
        value?).outcome =
      ((Tree.bin .mul (.num 2) (.var "x")).substitute
        value?).outcome := by
  simp only [Tree.substitute, Tree.outcome]
  cases value? "x" with
  | none => rfl
  | some n =>
      simp only [Tree.outcome_ofInt, Op.combine, Op.apply,
        Nat.cast_ofNat, two_mul]

/- The table of a short check without a counterexample. -/
theorem width_reportTable
    {run skipped : Nat}
    (hRun : run ≤ 10)
    (hSkipped : skipped ≤ 10) :
    (CommandLine.reportTable
      ⟨true, ["x"], run, skipped, none⟩).width ≤ 80 := by
  have hShort : ∀ n, n ≤ 10 →
      (Text.natural n).toList.length ≤ 3 := by
    intro n hn
    rw [Text.natural, String.toList_ofList]
    exact (Text.length_numeral_le_iff (by decide)).mpr
      (lt_of_le_of_lt hn (by decide))
  have hFirst := hShort run hRun
  have hSecond := hShort skipped hSkipped
  simp [CommandLine.reportTable, CommandLine.reportRows,
    Table.width, Table.keyWidth, Table.valueWidth,
    Table.widest, CommandLine.orHyphen, Json.commaSeparated]
  omega

/-
  By the standard settings a sum and a product are compared
  with a negative seed and the number of trials of the
  settings, and the request is written on indented lines.  The
  table of the report has room on a console of 80 columns.
-/
theorem surfaces_agree_sum :
    let body := Json.object
      (Json.comparison "x + x" "2 * x" (some (-4)) none)
    let r : Request :=
      ⟨"POST", "/equivalence", "application/json",
        body.write .indented⟩
    let t : Tree := .bin .add (.var "x") (.var "x")
    let u : Tree := .bin .mul (.num 2) (.var "x")
    let console : Console := ⟨80, fun _ => []⟩
    let run := CommandLine.runOn console [] (Twister.ofSeed 0)
      ["equiv", "x + x", "2 * x", "--seed", "-4"] ""
    Settings.read [] [] = .ok .standard ∧
      parse "x + x" = .ok t ∧
      parse "2 * x" = .ok u ∧
      Text.Writable (-4 : Int).natAbs ∧
      ∃ report source,
        check Config.standard t u (Twister.ofSeed (-4)) =
          (.ok report, source) ∧
        run.Tells console report ∧
        (CommandLine.reportTable report).width ≤ 80 ∧
        Report.ofLines? run.out = some report ∧
        Service.serve Settings.standard (Twister.ofSeed 1) r =
          .fulfilled (.object [("report", report.toJson)]) := by
  intro body r t u console run
  have hSettings : Settings.read [] [] = .ok .standard := rfl
  have hLevel :
      (LogLevel.threshold?
        (Text.capitals Settings.standard.logLevel)).isSome =
          true := by
    decide +kernel
  have hLeft : parse "x + x" = .ok t := by cbv
  have hRight : parse "2 * x" = .ok u := by cbv
  have hNumber : Text.Writable (-4 : Int).natAbs := by
    decide +kernel
  have hSeed : ∀ n ∈ some (-4 : Int),
      Text.Writable n.natAbs := by
    intro n hn
    cases hn
    exact hNumber
  have hTrials : ∀ n ∈ (none : Option Int),
      1 ≤ n ∧ n ≤ 1000 := by
    intro n hn
    cases hn
  have hMethod : r.method.toUpper = "POST" :=
    Service.method_posted "/equivalence" body
  have hRoute :
      Route.ofTarget r.target = .endpoint .equivalence := by
    decide
  have hMedia : Service.isJsonMedia r.media = true := by decide
  have hWords :
      CommandLine.equivWords "x + x" "2 * x" (some (-4)) none =
        ["equiv", "x + x", "2 * x", "--seed", "-4"] := by
    decide
  rcases CommandLine.exists_standard_tolerance with
    ⟨q, hTolerance, hNonneg⟩
  rcases check_same hTolerance hNonneg outcome_double
      (Twister.ofSeed (-4)) with
    ⟨skipped, source₂, hSkipped, hSame⟩
  rcases surfaces_agree console (Twister.ofSeed 0)
      (Twister.ofSeed 1) "" hSettings hLevel (by decide) rfl
      hLeft hRight (by decide) (by decide) (by decide)
      (by decide) hSeed hTrials (fun hNone => by cases hNone)
      (fun _ => by decide) hMethod hRoute hMedia rfl with
    ⟨cfg, n, report, source, hConfig, _, hNumber₂, hCheck, _,
      ⟨hTells, _, hLines⟩, hServe, _⟩
  cases hConfig
  cases hNumber₂
  have hRoom : (CommandLine.reportTable report).width ≤ 80 := by
    have hNames : variablesOf [t, u] = ["x"] := by decide
    have hBoth := hCheck.symm.trans hSame
    rw [hNames] at hBoth
    cases hBoth
    exact width_reportTable (by decide) hSkipped
  rw [hWords] at hTells hLines
  exact ⟨hSettings, hLeft, hRight, hNumber, report, source,
    hCheck, hTells, hRoom, hLines hRoom, hServe⟩

end Termwise
