import Termwise.Proofs.Service.Posting

/-
  Comparisons that are posted by their texts.  A request with
  two texts, and with a seed and a number of trials if they
  are given, is answered with the report of the check.  The
  answer determines the report unless one of its values is
  not finite.

  Key definitions include:
    * `Report.IsFinite`
    * `Json.numberField`
    * `Json.comparison`

  Main declarations:
    * `Report.toJson_injective`
    * `CompareBody.ofJson_comparison`
    * `Service.compareAnswer_texts`
    * `Service.serve_comparison`
-/

namespace Termwise

------------------------------------------------------------
-- Reports
------------------------------------------------------------

/- Both values of a counterexample are finite. -/
def Counterexample.IsFinite (c : Counterexample) : Prop :=
  c.left.isFinite = true ∧ c.right.isFinite = true

/- The values of a report are finite if it has some. -/
def Report.IsFinite (r : Report) : Prop :=
  ∀ c ∈ r.counterexample, c.IsFinite

/- A finite double is told by its value. -/
theorem finiteOrNull_injective
    {d e : Double}
    (hFinite : d.isFinite = true)
    (h : finiteOrNull e = finiteOrNull d) :
    e = d := by
  cases d with
  | infinite | nan => cases hFinite
  | finite negative m n =>
      cases e with
      | infinite | nan => cases h
      | finite negative₂ m₂ n₂ =>
          cases h
          rfl

/- So is a counterexample with finite values. -/
theorem Counterexample.toJson_injective
    {c d : Counterexample}
    (hFinite : d.IsFinite)
    (h : c.toJson = d.toJson) :
    c = d := by
  rcases c with ⟨a, x, y⟩
  rcases d with ⟨b, z, w⟩
  simp only [toJson, Json.object.injEq, List.cons.injEq,
    Prod.mk.injEq, true_and, and_true] at h
  rcases h with ⟨hAssignment, hLeft, hRight⟩
  have hField : Function.Injective
      fun (x, n) => ((x, .int n) : String × Json) := by
    rintro ⟨x, m⟩ ⟨y, n⟩ hSame
    cases hSame
    rfl
  rw [List.map_injective_iff.mpr hField hAssignment,
    finiteOrNull_injective hFinite.1 hLeft,
    finiteOrNull_injective hFinite.2 hRight]

/- So is a report if its values are finite. -/
theorem Report.toJson_injective
    {r r₂ : Report}
    (hFinite : r.IsFinite)
    (h : r₂.toJson = r.toJson) :
    r₂ = r := by
  rcases r with ⟨verdict, names, trials, skipped, found⟩
  rcases r₂ with
    ⟨verdict₂, names₂, trials₂, skipped₂, found₂⟩
  simp only [toJson, Json.object.injEq, List.cons.injEq,
    Prod.mk.injEq, Json.bool.injEq, Json.list.injEq,
    Json.int.injEq, Int.natCast_inj, true_and, and_true] at h
  rcases h with
    ⟨hVerdict, hNames, hTrials, hSkipped, hFound⟩
  have hText : Function.Injective Json.text := fun x y hSame =>
    Json.text.inj hSame
  rw [hVerdict, List.map_injective_iff.mpr hText hNames,
    hTrials, hSkipped]
  cases found with
  | none =>
      cases found₂ with
      | none => rfl
      | some c => cases hFound
  | some d =>
      cases found₂ with
      | none => cases hFound
      | some c =>
          rw [Counterexample.toJson_injective (hFinite d rfl)
            hFound]

------------------------------------------------------------
-- Bodies
------------------------------------------------------------

namespace Json

/- A field with a number, if there is one. -/
def numberField
    (key : String) : Option Int → List (String × Json)
| none => []
| some n => [(key, .int n)]

/-
  The body that asks for a comparison of two expressions by
  their texts, with a seed and a number of trials.
-/
def comparison
    (left right : String)
    (seed trials : Option Int) : List (String × Json) :=
  ("expr1", .ofText left) :: ("expr2", .ofText right) ::
    (numberField "seed" seed ++ numberField "trials" trials)

/- Its integers are short enough to be read from it. -/
theorem plain_comparison
    {seed trials : Option Int}
    (left right : String)
    (hSeed : ∀ n ∈ seed, Text.Writable n.natAbs)
    (hTrials : ∀ n ∈ trials, Text.Writable n.natAbs) :
    Plain .wholeNumbers
      (.object (comparison left right seed trials)) := by
  have hNumber : ∀ (key : String) (n : Option Int),
      (∀ m ∈ n, Text.Writable m.natAbs) →
      ∀ f ∈ numberField key n, Plain .wholeNumbers f.2 := by
    intro key n hn f hf
    cases n with
    | none => cases hf
    | some m =>
        rw [List.mem_singleton.mp hf]
        exact refuses_of_writable _ (hn m rfl)
  have hText : ∀ text : String,
      Plain .wholeNumbers (ofText text) := fun text =>
    ⟨List.nodup_singleton _, trivial, trivial⟩
  rw [Plain, plainFields_iff]
  constructor
  · cases seed <;> cases trials <;>
      simp [comparison, numberField]
  · intro f hf
    rcases List.mem_cons.mp hf with rfl | hf
    · exact hText left
    · rcases List.mem_cons.mp hf with rfl | hf
      · exact hText right
      · rcases List.mem_append.mp hf with hf | hf
        · exact hNumber _ _ hSeed f hf
        · exact hNumber _ _ hTrials f hf

end Json

namespace CompareBody

/- The numbers of a comparison are read from its body. -/
theorem manner_comparison
    {trials : Option Int}
    (left right : String)
    (seed : Option Int)
    (hTrials : ∀ n ∈ trials, 1 ≤ n ∧ n ≤ 1000) :
    manner (Json.comparison left right seed trials) =
      .ok (seed, trials) := by
  have hSeed :
      defaulted "seed"
          (Json.comparison left right seed trials)
          (Checked.taken (Scalar.optional Scalar.integer))
          none =
        .ok seed := by
    cases seed <;> cases trials <;> rfl
  have hCount :
      defaulted "trials"
          (Json.comparison left right seed trials)
          (Checked.taken
            (Scalar.optional (Scalar.integerBetween 1 1000)))
          none =
        .ok trials := by
    cases trials with
    | none => cases seed <;> rfl
    | some n =>
        have hFound :
            Json.lookup? "trials"
                (Json.comparison left right seed (some n)) =
              some (.int n) := by
          cases seed <;> rfl
        have hBetween :
            Scalar.integerBetween 1 1000 (.int n) = .ok n := by
          have hRange := hTrials n rfl
          simp only [Scalar.integerBetween,
            Scalar.integerAtLeast, Scalar.integer,
            if_neg (Int.not_lt.mpr hRange.1),
            if_neg (Int.not_lt.mpr hRange.2)]
        simp only [defaulted, hFound, Checked.taken,
          Scalar.optional, hBetween, Checked.under]
  rw [manner, hSeed, hCount]
  rfl

/- A comparison is read from its body. -/
theorem ofJson_comparison
    {left right : String}
    {trials : Option Int}
    (seed : Option Int)
    (hLeft : left.length ≤ Submission.textLimit)
    (hRight : right.length ≤ Submission.textLimit)
    (hTrials : ∀ n ∈ trials, 1 ≤ n ∧ n ≤ 1000) :
    ofJson (.object (Json.comparison left right seed trials)) =
      .ok ⟨.text left, .text right, seed, trials⟩ := by
  rw [ofJson_eq_compose rfl rfl,
    Submission.ofJson_ofText hLeft,
    Submission.ofJson_ofText hRight,
    manner_comparison left right seed hTrials]
  rfl

end CompareBody

------------------------------------------------------------
-- Answers
------------------------------------------------------------

namespace Service

section Compared

variable {s : Settings} {cfg : Config}

variable {left right : String} {t u : Tree}

variable {seed trials : Option Int}

variable {report : Report} {source : Twister}

variable (hLeft : parse left = .ok t)

variable (hRight : parse right = .ok u)

variable (hConfig : s.config trials = .ok cfg)

include hLeft hRight hConfig

/- Two texts are answered with the report of their check. -/
theorem compareAnswer_texts
    (fresh : Twister)
    (hCheck :
      check cfg t u (s.source seed fresh) =
        (.ok report, source)) :
    compareAnswer s fresh
        ⟨.text left, .text right, seed, trials⟩ =
      .ok (.object [("report", report.toJson)]) := by
  have hFirst : resolved (.text left) = .ok t := by
    rw [resolved, Submission.resolve, hLeft]
    rfl
  have hSecond : resolved (.text right) = .ok u := by
    rw [resolved, Submission.resolve, hRight]
    rfl
  rw [compareAnswer, hFirst, hSecond, hConfig]
  show ((check cfg t u (s.source seed fresh)).1.mapError
    ServiceFault.check >>= _) = _
  rw [hCheck]
  rfl

/-
  So they are if they are posted in the body of a request,
  in any layout.
-/
theorem serve_comparison
    {r : Request}
    {l : Json.Layout}
    (fresh : Twister)
    (hCheck :
      check cfg t u (s.source seed fresh) =
        (.ok report, source))
    (hLength : left.length ≤ Submission.textLimit)
    (hLength₂ : right.length ≤ Submission.textLimit)
    (hSeed : ∀ n ∈ seed, Text.Writable n.natAbs)
    (hTrials : ∀ n ∈ trials, 1 ≤ n ∧ n ≤ 1000)
    (hMethod : r.method.toUpper = "POST")
    (hRoute : Route.ofTarget r.target = .endpoint .equivalence)
    (hMedia : isJsonMedia r.media = true)
    (hBody :
      r.body =
        Json.write l
          (.object (Json.comparison left right seed trials))) :
    serve s fresh r =
      .fulfilled (.object [("report", report.toJson)]) := by
  have hWritable : ∀ n ∈ trials, Text.Writable n.natAbs :=
    fun n hn => Text.writable_of_trials (hTrials n hn)
  have hRead := readBody_write hMedia hBody
    (Json.plain_comparison left right hSeed hWritable)
  have hGiven := CompareBody.ofJson_comparison seed hLength
    hLength₂ hTrials
  rw [serve_post s fresh hMethod hRoute (by decide), answerAt,
    withBody_ok hRead hGiven,
    compareAnswer_texts hLeft hRight hConfig fresh hCheck]
  rfl

end Compared

end Service

end Termwise
