import Termwise.Proofs.Json.Encoding
import Termwise.Proofs.Json.Reading
import Termwise.Proofs.Print.BareForm
import Termwise.Proofs.Service.Alike
import Termwise.Proofs.Service.Sending

/-
  How requests are answered that are posted to the service.
  The text of an expression that is reduced to zero, but by
  a number that is too long, is answered with the status of
  a request that could not be met.

  Key definitions include:
    * `Request.posted`
    * `Json.ofText`
    * `Tree.squareDifference`

  Main declarations:
    * `Service.readBody_write`
    * `Service.sent_of_fulfilled`
    * `Service.serve_post`
    * `Service.status_evaluate_text`
    * `Service.status_evaluate_squareDifference`
    * `Service.status_post`
-/

namespace Termwise

namespace Service

------------------------------------------------------------
-- Bodies
------------------------------------------------------------

/- A plain object in the body of a request is read from it. -/
theorem readBody_write
    {r : Request}
    {l : Json.Layout}
    {fields : List (String × Json)}
    (hMedia : isJsonMedia r.media = true)
    (hBody : r.body = Json.write l (.object fields))
    (hPlain : Json.Plain .wholeNumbers (.object fields)) :
    readBody r = .value (.object fields) := by
  have hChars := Json.encodedChars?_write l fields
  have hRead :
      Json.read .body (Json.write l (.object fields)) =
        .ok (.object fields) :=
    Json.read_write l hPlain (fun _ h => by cases h)
  have hMore :
      (Json.write l (.object fields)).isEmpty = false := by
    rcases Json.exists_write_object l fields with
      ⟨c, rest, _, hStart⟩
    rw [Json.write, Json.chars, hStart]
    simp
  rw [Json.read] at hRead
  unfold readBody readJson
  simp only [hBody, hMedia, hMore, hChars, hRead]
  rfl

------------------------------------------------------------
-- Fulfilled Requests
------------------------------------------------------------

/- A request with a body is fulfilled by an answer to it. -/
theorem withBody_eq_fulfilled
    {α : Type}
    {r : Request}
    {rule : Json → Checked α}
    {next : α → Except ServiceFault Json}
    {j : Json}
    (h : withBody r rule next = .fulfilled j) :
    ∃ v x, readBody r = .value v ∧ rule v = .ok x ∧
      next x = .ok j := by
  by_cases hValue : ∃ v, readBody r = .value v
  · rcases hValue with ⟨v, hBody⟩
    cases hRule : rule v with
    | error issues =>
        rw [withBody_error hBody hRule] at h
        exact absurd h (Response.invalid_ne_fulfilled _ j)
    | ok x =>
        rw [withBody_ok hBody hRule] at h
        exact ⟨v, x, hBody, hRule, outcome_eq_fulfilled h⟩
  · have hStatus : (withBody r rule next).status = 200 :=
      congrArg Response.status h
    have hOther :
        (withBody r rule next).status = 400 ∨
          (withBody r rule next).status = 422 :=
      status_of_no_value fun v hBody => hValue ⟨v, hBody⟩
    rw [hStatus] at hOther
    rcases hOther with hOther | hOther
    · cases hOther
    · cases hOther

/- What a request with a body is fulfilled by can be sent. -/
theorem sent_of_fulfilled
    {s : Settings}
    {fresh : Twister}
    {r : Request}
    {e : Endpoint}
    {j : Json}
    (hShort : s.Short)
    (h : answerAt s fresh r e = .fulfilled j) :
    Json.Everywhere Json.IsSent j := by
  cases e with
  | health =>
      cases h
      exact ⟨trivial, trivial, trivial⟩
  | parse =>
      rcases withBody_eq_fulfilled h with
        ⟨_, text, _, _, hNext⟩
      exact sends_parseAnswer text j hNext
  | evaluate =>
      rcases withBody_eq_fulfilled h with ⟨_, b, _, _, hNext⟩
      exact sends_reduceAnswer b j hNext
  | render =>
      rcases withBody_eq_fulfilled h with ⟨_, e, _, _, hNext⟩
      exact sends_renderAnswer e j hNext
  | equivalence =>
      rcases withBody_eq_fulfilled h with
        ⟨_, b, _, hRead, hNext⟩
      exact sends_compareAnswer fresh hShort
        (CompareBody.trials_le hRead) j hNext

------------------------------------------------------------
-- Posted Requests
------------------------------------------------------------

/- A request that is posted is answered by its endpoint. -/
theorem serve_post
    {r : Request}
    {e : Endpoint}
    (s : Settings)
    (fresh : Twister)
    (hMethod : r.method.toUpper = "POST")
    (hRoute : Route.ofTarget r.target = .endpoint e)
    (hPosted : e ≠ .health) :
    serve s fresh r = answerAt s fresh r e := by
  have hHead : r.method.toUpper ≠ "HEAD" := by
    rw [hMethod]
    decide
  have hOwn : r.method.toUpper = e.method :=
    hMethod.trans (Endpoint.method_eq_post hPosted).symm
  rw [serve, if_neg hHead]
  unfold respond
  split
  · next hNowhere =>
      rw [hRoute] at hNowhere
      cases hNowhere
  · next hMoved =>
      rw [hRoute] at hMoved
      cases hMoved
  · next e₂ hSame =>
      rw [hRoute] at hSame
      cases hSame
      rw [if_pos hOwn]

end Service

------------------------------------------------------------
-- Posted Texts
------------------------------------------------------------

/- A request that posts a JSON value. -/
def Request.posted (target : String) (v : Json) : Request :=
  ⟨"POST", target, "application/json", v.write .compact⟩

/- The body of an expression that is given by its text. -/
def Json.ofText (text : String) : Json :=
  .object [("text", .text text)]

/- A text that is not too long is the part that is given. -/
theorem Submission.parts_ofText
    {text : String}
    (hShort : text.length ≤ textLimit) :
    parts [("text", .text text)] = .ok (some text, none) := by
  let alone : Surroundings := ⟨[], []⟩
  have hText : alone.Lacks "text" := List.not_mem_nil
  have hTree : alone.Lacks "tree" := List.not_mem_nil
  exact parts_text hText hTree hShort

/- It is read as an expression that is submitted. -/
theorem Submission.ofJson_ofText
    {text : String}
    (hShort : text.length ≤ textLimit) :
    ofJson (.ofText text) = .ok (.text text) := by
  simp only [ofJson, Json.ofText, objectFields, ofFields,
    parts_ofText hShort, choose]

/- It is read as an expression to reduce. -/
theorem ReduceBody.ofJson_ofText
    {text : String}
    (hShort : text.length ≤ Submission.textLimit) :
    ofJson (Json.ofText text) = .ok ⟨.text text, false⟩ := by
  rw [ofJson, Json.ofText]
  simp only [objectFields, Submission.parts_ofText hShort]
  rfl

namespace Service

/- The body of a text that is posted is read. -/
theorem readBody_posted (target text : String) :
    readBody (.posted target (Json.ofText text)) =
      .value (Json.ofText text) := by
  have hMedia : isJsonMedia "application/json" = true := by
    decide
  refine readBody_write hMedia rfl ?_
  exact ⟨List.nodup_singleton _, trivial, trivial⟩

/- What is posted has the method that it should have. -/
theorem method_posted (target : String) (v : Json) :
    (Request.posted target v).method.toUpper = "POST" := by
  have hSame : "POST".toList.map Char.toUpper = "POST".toList :=
    by decide
  show "POST".toUpper = "POST"
  refine String.toList_inj.mp ?_
  rw [String.toUpper, String.toList_map, hSame]

/- The service fails on an expression that has no trace. -/
theorem status_evaluate
    {s : Settings}
    {r : Request}
    {v : Json}
    {b : ReduceBody}
    {t : Tree}
    (fresh : Twister)
    (hMethod : r.method.toUpper = "POST")
    (hRoute : Route.ofTarget r.target = .endpoint .evaluate)
    (hBody : readBody r = .value v)
    (hRead : ReduceBody.ofJson v = .ok b)
    (hResolve : b.expression.resolve = .ok t)
    (hTrace : t.trace = .error .number) :
    (serve s fresh r).status = 500 := by
  have hBreaks : Breaks (reduceAnswer b) :=
    breaks_reduceAnswer.mpr ⟨t, hResolve, .inr hTrace⟩
  rw [serve_post s fresh hMethod hRoute (by decide)]
  exact (status_of_value hBody).2.mpr
    (.inr ⟨b, hRead, hBreaks⟩)

/- So it does on the text of such an expression. -/
theorem status_evaluate_text
    {s : Settings}
    {t : Tree}
    {text : String}
    (fresh : Twister)
    (hShort : text.length ≤ Submission.textLimit)
    (hParse : parse text = .ok t)
    (hTrace : t.trace = .error .number) :
    (serve s fresh
      (.posted "/evaluate" (Json.ofText text))).status =
        500 := by
  have hRoute :
      Route.ofTarget "/evaluate" = .endpoint .evaluate := by
    decide
  exact status_evaluate fresh (method_posted _ _) hRoute
    (readBody_posted _ _) (ReduceBody.ofJson_ofText hShort)
    hParse hTrace

end Service

------------------------------------------------------------
-- A Difference of Squares
------------------------------------------------------------

namespace Tree

/- The difference between the square of a number and itself. -/
def squareDifference (n : Nat) : Tree :=
  bin .sub (bin .mul (num n) (num n))
    (bin .mul (num n) (num n))

/- It is reduced to zero. -/
theorem reduce_squareDifference (n : Nat) :
    (squareDifference n).reduce = num 0 := by
  have hSquare :
      (bin .mul (num n) (num n)).reduce =
        ofInt ((n : Int) * n) := rfl
  rw [squareDifference, reduce, hSquare, join, collapse?,
    integer?_ofInt]
  show ofInt ((n : Int) * n - n * n) = num 0
  rw [Int.sub_self]
  rfl

/- Its trace has a step with the square. -/
theorem trace_squareDifference
    {n : Nat}
    (h : ¬ Text.Writable (n * n)) :
    (squareDifference n).trace = .error .number := by
  cases hTrace : (squareDifference n).trace with
  | error e =>
      cases e
      rfl
  | ok r =>
      have hSteps := (trace_eq_ok.mp hTrace).1.2.2
      have hSquare :
          Step.collapsed .mul n n (n * n) ∈
            (squareDifference n).reduceLogged.2 :=
        List.mem_cons_self
      have hLast := (hSteps _ hSquare).2.2
      rw [Int.natAbs_mul] at hLast
      exact absurd hLast h

/- Its text is read if the number is short enough. -/
theorem parse_squareDifference
    {n : Nat}
    (h : Text.Writable n) :
    parse (String.ofList (squareDifference n).infixChars) =
      .ok (squareDifference n) := by
  have hNumbers : (squareDifference n).Writable := by
    intro m hm
    rw [List.eq_of_mem_replicate (n := 4) hm]
    exact h
  have hNames : (squareDifference n).Lettered :=
    List.forall_mem_nil _
  have hDepth :
      2 * (squareDifference n).depth ≤ depthLimit + 2 := by
    show 2 * 3 ≤ depthLimit + 2
    decide
  exact parse_infix hNames hNumbers hDepth

end Tree

namespace Service

/-
  The difference between the square of a number and itself
  is reduced to zero, but if the square is too long the
  service fails on its text, even if no steps are wanted.
-/
theorem status_evaluate_squareDifference
    {s : Settings}
    {n : Nat}
    (fresh : Twister)
    (hDigits : (Text.numeral n).length ≤ 2400)
    (hSquare : ¬ Text.Writable (n * n)) :
    (serve s fresh
      (.posted "/evaluate"
        (Json.ofText (String.ofList
          (Tree.squareDifference n).infixChars)))).status =
      500 := by
  have hLimit : 2400 ≤ Text.digitLimit := by decide
  have hNumber : Text.Writable n :=
    (Text.length_numeral_le_iff (by decide)).mp
      (hDigits.trans hLimit)
  have hShort :
      (String.ofList
        (Tree.squareDifference n).infixChars).length ≤
        Submission.textLimit := by
    have hRoom : Submission.textLimit = 10000 := rfl
    simp only [Tree.squareDifference, String.length_ofList,
      Tree.infixChars, List.length_append, List.length_cons,
      List.length_nil]
    omega
  exact status_evaluate_text fresh hShort
    (Tree.parse_squareDifference hNumber)
    (Tree.trace_squareDifference hSquare)

/- A power of ten with 2201 digits is such a number. -/
theorem status_evaluate_powers :
    Settings.standard.config none = .ok Config.standard ∧
      Settings.standard.tolerance.isFinite = true ∧
      (Tree.squareDifference (10 ^ 2200)).reduce = .num 0 ∧
      (serve Settings.standard (Twister.ofSeed 0)
        (.posted "/evaluate"
          (Json.ofText (String.ofList
            (Tree.squareDifference
              (10 ^ 2200)).infixChars)))).status =
        500 := by
  have hDigits : (Text.numeral (10 ^ 2200)).length ≤ 2400 := by
    rw [Text.length_numeral_le_iff (by decide)]
    decide +kernel
  have hSquare : ¬ Text.Writable (10 ^ 2200 * 10 ^ 2200) := by
    decide +kernel
  exact ⟨rfl, rfl, Tree.reduce_squareDifference _,
    status_evaluate_squareDifference _ hDigits hSquare⟩

------------------------------------------------------------
-- Statuses
------------------------------------------------------------

/-
  A request that is posted to one of the four endpoints is
  answered with one of four statuses, and what fulfils it
  can be sent.  It is not met if its body is one that the
  endpoint breaks on.  Of the bodies that can be written
  there is only one kind of these: an expression to reduce
  of which the trace has a number that is too long.
-/
theorem status_post
    {s : Settings}
    {cfg : Config}
    {r : Request}
    {e : Endpoint}
    (fresh : Twister)
    (hConfig : s.config none = .ok cfg)
    (hTolerance : s.tolerance.isFinite = true)
    (hMethod : r.method.toUpper = "POST")
    (hRoute : Route.ofTarget r.target = .endpoint e)
    (hPosted : e ≠ .health) :
    (serve s fresh r).status ∈ [200, 400, 422, 500] ∧
      ((serve s fresh r).status = 500 ↔
        ∃ v, readBody r = .value v ∧ e.BreaksOn v) ∧
      (∀ v, readBody r = .value v → v.isWritable = true →
        ((serve s fresh r).status = 500 ↔
          e = .evaluate ∧
            ∃ b, ReduceBody.ofJson v = .ok b ∧
              ∃ t, b.expression.resolve = .ok t ∧
                t.trace = .error .number)) ∧
      (s.Short → ∀ j, serve s fresh r = .fulfilled j →
        Json.Everywhere Json.IsSent j) := by
  rw [serve_post s fresh hMethod hRoute hPosted]
  rcases status_answerAt hConfig hTolerance fresh r hPosted
    with ⟨hStatus, hFails⟩
  refine ⟨hStatus, hFails, ?_, ?_⟩
  · intro v hBody hWritable
    rw [hFails, ← Endpoint.breaksOn_of_isWritable hWritable]
    constructor
    · rintro ⟨w, hSame, hBreaks⟩
      rw [hBody] at hSame
      cases hSame
      exact hBreaks
    · exact fun hBreaks => ⟨v, hBody, hBreaks⟩
  · intro hShort j hAnswer
    exact sent_of_fulfilled hShort hAnswer

/-
  By the standard settings the text of a product is parsed,
  or it is told what is wrong with it.
-/
theorem status_post_product :
    let r := Request.posted "/parse" (Json.ofText "2 * (3 - x)")
    let answer :=
      serve Settings.standard (Twister.ofSeed 0) r
    Settings.standard.config none = .ok Config.standard ∧
      Settings.standard.tolerance.isFinite = true ∧
      r.method.toUpper = "POST" ∧
      Route.ofTarget r.target = .endpoint .parse ∧
      Endpoint.parse ≠ .health ∧
      answer.status ∈ [200, 400, 422, 500] ∧
      answer.status ≠ 500 ∧
      ∀ j, answer = .fulfilled j →
        Json.Everywhere Json.IsSent j := by
  intro r answer
  have hConfig :
      Settings.standard.config none = .ok Config.standard := rfl
  have hTolerance :
      Settings.standard.tolerance.isFinite = true := rfl
  have hMethod := method_posted "/parse"
    (Json.ofText "2 * (3 - x)")
  have hRoute : Route.ofTarget "/parse" = .endpoint .parse := by
    decide
  have hPosted : Endpoint.parse ≠ .health := by decide
  have hShort : Settings.standard.Short :=
    ⟨by decide +kernel, by decide +kernel, by decide +kernel⟩
  rcases status_post (Twister.ofSeed 0) hConfig hTolerance
      hMethod hRoute hPosted with
    ⟨hStatus, _, hFails, hSent⟩
  refine ⟨hConfig, hTolerance, hMethod, hRoute, hPosted,
    hStatus, ?_, hSent hShort⟩
  intro hFailed
  cases ((hFails _ (readBody_posted _ _) rfl).mp hFailed).1

end Service

end Termwise
