import Termwise.Proofs.Service.Posting

/-
  Expressions in the bodies of requests.  It does not matter
  if an expression is given by its text or by the tree that
  the text is parsed as: a request with either is answered
  alike, whatever else its body holds.

  Key definitions include:
    * `Side`
    * `Place`
    * `Place.fill`
    * `Place.Fits`
    * `Service.made`
    * `Service.response`
    * `Request.Posts`

  Main declarations:
    * `Service.answerAt_eq_response`
    * `Service.made_operand_congr`
    * `Service.made_body_congr`
    * `Service.made_congr`
    * `Service.readBody_tree`
    * `Service.serve_text_or_tree`
-/

namespace Termwise

------------------------------------------------------------
-- Places of Expressions
------------------------------------------------------------

/- The two sides of a comparison. -/
inductive Side where
| left : Side
| right : Side
deriving DecidableEq, Repr

namespace Side

/- The key of the expression on a side. -/
def key : Side → String
| left => "expr1"
| right => "expr2"

/- The side across. -/
def across : Side → Side
| left => right
| right => left

/- An operand has another key than all the other fields. -/
theorem key_ne (side : Side) :
    side.key ≠ side.across.key ∧ side.key ≠ "seed" ∧
      side.key ≠ "trials" := by
  cases side with
  | left | right => decide

end Side

/-
  Where an expression is given in a body: in the body itself,
  or as one of two operands.
-/
inductive Place where
| body : Surroundings → Place
| operand : Side → Surroundings → Surroundings → Place

namespace Place

/- The body with a field for the expression in its place. -/
def fill : Place → String × Json → Json
| body o, f => .object (o.fields f)
| operand side outer inner, f =>
    .object (outer.fields (side.key, .object (inner.fields f)))

/-
  The body is one of an endpoint, and the expression is given
  once in it.  A comparison has its other operand and a seed,
  which may all be wrong.
-/
def Fits : Place → Endpoint → Prop
| body o, e =>
    (e = .evaluate ∨ e = .render) ∧
      o.Lacks "text" ∧ o.Lacks "tree"
| operand side outer inner, e =>
    e = .equivalence ∧ outer.Lacks side.key ∧
      (∃ v, Json.lookup? side.across.key outer.others =
        some v) ∧
      (∃ v, Json.lookup? "seed" outer.others = some v ∧
        v ≠ .null) ∧
      inner.Lacks "text" ∧ inner.Lacks "tree"

end Place

------------------------------------------------------------
-- What Is Made of a Body
------------------------------------------------------------

namespace Service

/-
  What an endpoint makes of the value in a body: what is
  wrong with the value, and with what, or an answer, or the
  fault that there is none for.
-/
def made
    (s : Settings)
    (fresh : Twister)
    (v : Json) :
    Endpoint → Checked (Except ServiceFault Json)
| .health => .ok (.ok (healthAnswer s))
| .parse => (ParseBody.ofJson v).map parseAnswer
| .evaluate => (ReduceBody.ofJson v).map reduceAnswer
| .render => (Submission.ofJson v).map renderAnswer
| .equivalence =>
    (CompareBody.ofJson v).map (compareAnswer s fresh)

/- The response to what is made of a body. -/
def response : Checked (Except ServiceFault Json) → Response
| .error issues =>
    .invalid (issues.map fun i =>
      ⟨i.kind, "body" :: i.place, i.subject⟩)
| .ok answer => outcome answer

/- A body with a value in it is answered by what is made. -/
theorem withBody_eq_response
    {α : Type}
    {r : Request}
    {v : Json}
    (rule : Json → Checked α)
    (next : α → Except ServiceFault Json)
    (hBody : readBody r = .value v) :
    withBody r rule next = response ((rule v).map next) := by
  cases hRule : rule v with
  | error issues => exact withBody_error hBody hRule
  | ok x => exact withBody_ok hBody hRule

/- So is every request with a value in its body. -/
theorem answerAt_eq_response
    {r : Request}
    {v : Json}
    (s : Settings)
    (fresh : Twister)
    (e : Endpoint)
    (hBody : readBody r = .value v) :
    answerAt s fresh r e = response (made s fresh v e) := by
  cases e with
  | health => rfl
  | parse | evaluate | render | equivalence =>
      exact withBody_eq_response _ _ hBody

/-
  A comparison is made alike of operands that are read alike
  on one side, next to any operand on the other.
-/
theorem made_operand_congr
    {side : Side}
    {outer : Surroundings}
    {u seed v w : Json}
    (s : Settings)
    (fresh fresh₂ : Twister)
    (hLacks : outer.Lacks side.key)
    (hAcross :
      Json.lookup? side.across.key outer.others = some u)
    (hSeed : Json.lookup? "seed" outer.others = some seed)
    (hNull : seed ≠ .null)
    (hAlike :
      Submission.ReadAlike
        (Submission.ofJson v) (Submission.ofJson w)) :
    made s fresh (.object (outer.fields (side.key, v)))
        .equivalence =
      made s fresh₂ (.object (outer.fields (side.key, w)))
        .equivalence := by
  rcases side.key_ne with ⟨hNeAcross, hNeSeed, hNeTrials⟩
  have hOwn := Surroundings.lookup?_fields_self hLacks
  have hOther : ∀ x,
      Json.lookup? side.across.key
        (outer.fields (side.key, x)) = some u := fun x =>
    (outer.lookup?_fields_of_ne hNeAcross x).trans hAcross
  have hManner :
      CompareBody.manner (outer.fields (side.key, v)) =
        CompareBody.manner (outer.fields (side.key, w)) := by
    refine CompareBody.manner_congr ?_ ?_
    · rw [outer.lookup?_fields_of_ne hNeSeed,
        outer.lookup?_fields_of_ne hNeSeed]
    · rw [outer.lookup?_fields_of_ne hNeTrials,
        outer.lookup?_fields_of_ne hNeTrials]
  have hGiven : ∀ n trials,
      CompareBody.manner (outer.fields (side.key, w)) =
        .ok (n, trials) → n.isSome = true := fun n trials =>
    CompareBody.isSome_seed_of_manner
      ((outer.lookup?_fields_of_ne hNeSeed w).trans hSeed)
      hNull
  cases side with
  | left =>
      rw [made, CompareBody.ofJson_eq_compose (hOwn v) (hOther v),
        hManner, made,
        CompareBody.ofJson_eq_compose (hOwn w) (hOther w)]
      exact CompareBody.compose_congr s fresh fresh₂
        (hAlike.under _) (.refl _) hGiven
  | right =>
      rw [made, CompareBody.ofJson_eq_compose (hOther v) (hOwn v),
        hManner, made,
        CompareBody.ofJson_eq_compose (hOther w) (hOwn w)]
      exact CompareBody.compose_congr s fresh fresh₂
        (.refl _) (hAlike.under _) hGiven

/-
  A reduction is made alike of a text and its tree, with the
  steps that are asked for next to them.
-/
theorem made_body_congr
    {o : Surroundings}
    {text : String}
    {t : Tree}
    (s : Settings)
    (fresh fresh₂ : Twister)
    (hText : o.Lacks "text")
    (hTree : o.Lacks "tree")
    (hLength : text.length ≤ Submission.textLimit)
    (hParse : parse text = .ok t) :
    made s fresh (.object (o.fields ("text", .text text)))
        .evaluate =
      made s fresh₂ (.object (o.fields ("tree", t.toJson)))
        .evaluate := by
  have hSteps :
      defaulted "steps" (o.fields ("text", .text text))
          (Checked.taken Scalar.truth) false =
        defaulted "steps" (o.fields ("tree", t.toJson))
          (Checked.taken Scalar.truth) false := by
    refine defaulted_congr ?_ _ _
    rw [o.lookup?_fields_of_ne (by decide),
      o.lookup?_fields_of_ne (by decide)]
  simp only [made, ReduceBody.ofJson, objectFields, hSteps,
    Submission.parts_text hText hTree hLength,
    Submission.parts_tree hText hTree]
  cases defaulted "steps" (o.fields ("tree", t.toJson))
      (Checked.taken Scalar.truth) false with
  | error issues => rfl
  | ok steps =>
      exact congrArg Except.ok (reduceAnswer_congr
        (Submission.text_alike_tree hParse) steps)

/-
  Of a body the same is made if an expression is given in it
  by its text or by its tree.
-/
theorem made_congr
    {p : Place}
    {e : Endpoint}
    {text : String}
    {t : Tree}
    (s : Settings)
    (fresh fresh₂ : Twister)
    (hFits : p.Fits e)
    (hLength : text.length ≤ Submission.textLimit)
    (hParse : parse text = .ok t) :
    made s fresh (p.fill ("text", .text text)) e =
      made s fresh₂ (p.fill ("tree", t.toJson)) e := by
  have hAlike := Submission.text_alike_tree hParse
  cases p with
  | body o =>
      rcases hFits with ⟨hEndpoint, hText, hTree⟩
      rcases hEndpoint with rfl | rfl
      · exact made_body_congr s fresh fresh₂ hText hTree
          hLength hParse
      · rw [Place.fill, made,
          Submission.ofJson_text hText hTree hLength,
          Place.fill, made,
          Submission.ofJson_tree hText hTree]
        exact congrArg Except.ok (renderAnswer_congr hAlike)
  | operand side outer inner =>
      rcases hFits with
        ⟨rfl, hLacks, ⟨u, hAcross⟩, ⟨seed, hSeed, hNull⟩,
          hText, hTree⟩
      refine made_operand_congr s fresh fresh₂ hLacks hAcross
        hSeed hNull ?_
      rw [Submission.ofJson_text hText hTree hLength,
        Submission.ofJson_tree hText hTree]
      exact .ok hAlike

end Service

------------------------------------------------------------
-- Requests
------------------------------------------------------------

/- A request posts a value to an endpoint. -/
structure Request.Posts
    (r : Request)
    (e : Endpoint)
    (v : Json) : Prop where
  method : r.method.toUpper = "POST"
  route : Route.ofTarget r.target = .endpoint e
  body : Service.readBody r = .value v

/- Only endpoints that are posted to have expressions. -/
theorem Place.Fits.ne_health
    {p : Place}
    {e : Endpoint}
    (h : p.Fits e) :
    e ≠ .health := by
  cases p with
  | body o => rcases h.1 with rfl | rfl <;> decide
  | operand side outer inner =>
      rw [h.1]
      decide

/- A body stays plain if its text is replaced by its tree. -/
theorem Place.plain_fill
    {rule : Json.LengthRule}
    {p : Place}
    {e : Endpoint}
    {text : String}
    {t : Tree}
    (hFits : p.Fits e)
    (hParse : parse text = .ok t)
    (h : Json.Plain rule (p.fill ("text", .text text))) :
    Json.Plain rule (p.fill ("tree", t.toJson)) := by
  have hTree := t.plain_toJson rule (writable_of_parse hParse)
  cases p with
  | body o =>
      exact Surroundings.plain_fields h hFits.2.2 hTree
  | operand side outer inner =>
      rcases hFits with ⟨_, hLacks, _, _, _, hInner⟩
      have hOperand := Surroundings.plain_of_fields h
      exact Surroundings.plain_fields h hLacks
        (Surroundings.plain_fields hOperand hInner hTree)

namespace Service

/-
  A plain body, written in any layout, is read after its text
  is replaced by the tree.
-/
theorem readBody_tree
    {p : Place}
    {e : Endpoint}
    {text : String}
    {t : Tree}
    {r : Request}
    {l : Json.Layout}
    (hFits : p.Fits e)
    (hParse : parse text = .ok t)
    (hPlain :
      Json.Plain .wholeNumbers (p.fill ("text", .text text)))
    (hMedia : isJsonMedia r.media = true)
    (hBody :
      r.body = Json.write l (p.fill ("tree", t.toJson))) :
    readBody r = .value (p.fill ("tree", t.toJson)) := by
  have hTree := Place.plain_fill hFits hParse hPlain
  cases p with
  | body o => exact readBody_write hMedia hBody hTree
  | operand side outer inner =>
      exact readBody_write hMedia hBody hTree

/-
  An expression may be given by its text or by the tree that
  the text is parsed as.  Two requests that differ in this
  only are answered alike, since the same is made of both of
  their bodies: the same issues with the same values, the
  same fault, or the same answer.  If the body is plain then
  all layouts of the value with the tree in it are bodies
  that the value is read from.
-/
theorem serve_text_or_tree
    {p : Place}
    {e : Endpoint}
    {text : String}
    {t : Tree}
    {r r₂ : Request}
    (s : Settings)
    (fresh fresh₂ : Twister)
    (hFits : p.Fits e)
    (hLength : text.length ≤ Submission.textLimit)
    (hParse : parse text = .ok t)
    (hText : r.Posts e (p.fill ("text", .text text)))
    (hTree : r₂.Posts e (p.fill ("tree", t.toJson))) :
    made s fresh (p.fill ("text", .text text)) e =
        made s fresh₂ (p.fill ("tree", t.toJson)) e ∧
      serve s fresh r = serve s fresh₂ r₂ ∧
      (Json.Plain .wholeNumbers
          (p.fill ("text", .text text)) →
        ∀ (l : Json.Layout) (r₃ : Request),
          isJsonMedia r₃.media = true →
          r₃.body =
            Json.write l (p.fill ("tree", t.toJson)) →
          readBody r₃ =
            .value (p.fill ("tree", t.toJson))) := by
  have hMade :=
    made_congr s fresh fresh₂ hFits hLength hParse
  refine ⟨hMade, ?_, ?_⟩
  · rw [serve_post s fresh hText.method hText.route
        hFits.ne_health,
      serve_post s fresh₂ hTree.method hTree.route
        hFits.ne_health,
      answerAt_eq_response s fresh e hText.body, hMade,
      answerAt_eq_response s fresh₂ e hTree.body]
  · intro hPlain l r₃ hMedia hBody
    exact readBody_tree hFits hParse hPlain hMedia hBody

/- A sum may be given so when it is compared with a product. -/
theorem serve_text_or_tree_sum :
    let outer : Surroundings :=
      ⟨[], [("expr2", Json.ofText "2 * x"), ("seed", .int 7)]⟩
    let p : Place := .operand .left outer ⟨[], []⟩
    let t : Tree := .bin .add (.var "x") (.var "x")
    let r := Request.posted "/equivalence"
      (p.fill ("text", .text "x + x"))
    let r₂ := Request.posted "/equivalence"
      (p.fill ("tree", t.toJson))
    p.Fits .equivalence ∧
      "x + x".length ≤ Submission.textLimit ∧
      parse "x + x" = .ok t ∧
      r.Posts .equivalence (p.fill ("text", .text "x + x")) ∧
      r₂.Posts .equivalence (p.fill ("tree", t.toJson)) ∧
      serve Settings.standard (Twister.ofSeed 0) r =
        serve Settings.standard (Twister.ofSeed 1) r₂ := by
  intro outer p t r r₂
  have hFits : p.Fits .equivalence :=
    ⟨rfl, by decide, ⟨_, rfl⟩, ⟨_, rfl, Json.noConfusion⟩,
      by decide, by decide⟩
  have hLength : "x + x".length ≤ Submission.textLimit := by
    decide
  have hParse : parse "x + x" = .ok t := by cbv
  have hRoute :
      Route.ofTarget "/equivalence" = .endpoint .equivalence :=
    by decide
  have hMedia : isJsonMedia "application/json" = true := by
    decide
  have hPlain :
      Json.Plain .wholeNumbers
        (p.fill ("text", .text "x + x")) := by
    simp [p, outer, Place.fill, Surroundings.fields, Side.key,
      Json.ofText, Json.Plain, Json.PlainFields]
    decide
  have hText :
      r.Posts .equivalence (p.fill ("text", .text "x + x")) :=
    ⟨method_posted _ _, hRoute,
      readBody_write hMedia rfl hPlain⟩
  have hTree :
      r₂.Posts .equivalence (p.fill ("tree", t.toJson)) :=
    ⟨method_posted _ _, hRoute,
      readBody_tree hFits hParse hPlain hMedia rfl⟩
  exact ⟨hFits, hLength, hParse, hText, hTree,
    (serve_text_or_tree _ _ _ hFits hLength hParse hText
      hTree).2.1⟩

end Service

end Termwise
