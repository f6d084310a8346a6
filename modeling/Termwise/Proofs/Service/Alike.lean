import Mathlib.Data.List.Nodup
import Termwise.Proofs.Schema.TreeForm
import Termwise.Proofs.Service.Bodies
import Termwise.Service.Serve

/-
  Expressions that are given differently but are the same.
  A text among other fields is read as the submission of the
  text, and the value of a tree as that of the tree.  Where
  one is parsed as the other, all that is done with the two
  is the same.

  Key definitions include:
    * `Submission.Alike`
    * `Surroundings`
    * `Surroundings.Lacks`
    * `Submission.ReadAlike`
    * `CompareBody.manner`
    * `CompareBody.compose`

  Main declarations:
    * `Submission.text_alike_tree`
    * `Service.renderAnswer_congr`
    * `Service.reduceAnswer_congr`
    * `Service.compareAnswer_congr`
    * `Surroundings.plain_fields`
    * `Submission.ofJson_text`
    * `Submission.ofJson_tree`
    * `CompareBody.ofJson_eq_compose`
    * `CompareBody.compose_congr`
-/

namespace Termwise

------------------------------------------------------------
-- Submissions That Are Alike
------------------------------------------------------------

/-
  Two submissions are the same expression: they resolve
  alike, and both or none of them can be shown to others.
-/
def Submission.Alike (a b : Submission) : Prop :=
  a.resolve = b.resolve ∧ a.isWritable = b.isWritable

/- A text is like the tree that it is parsed as. -/
theorem Submission.text_alike_tree
    {text : String}
    {t : Tree}
    (h : parse text = .ok t) :
    (Submission.text text).Alike (.tree t) :=
  ⟨h, rfl⟩

/- Every submission is like itself. -/
theorem Submission.Alike.refl (a : Submission) : a.Alike a :=
  ⟨rfl, rfl⟩

namespace Service

/- Submissions that can be shown alike pass alike. -/
theorem writable_congr
    {es es₂ : List Submission}
    (h :
      es.map Submission.isWritable =
        es₂.map Submission.isWritable) :
    writable es = writable es₂ := by
  have hAll :
      es.all Submission.isWritable =
        es₂.all Submission.isWritable := by
    have hMapped := congrArg (List.all · id) h
    simpa only [List.all_map, Function.id_comp] using hMapped
  rw [writable, hAll, ← writable]

section Congruence

variable {a b c d : Submission}

variable (hLeft : a.Alike b) (hRight : c.Alike d)

include hLeft

/- Submissions that are alike have the same tree. -/
theorem resolved_congr : resolved a = resolved b := by
  rw [resolved, hLeft.1, ← resolved]

/- They have the same written forms. -/
theorem renderAnswer_congr :
    renderAnswer a = renderAnswer b := by
  have hShown : writable [a] = writable [b] :=
    writable_congr (congrArg ([·]) hLeft.2)
  rw [renderAnswer, resolved_congr hLeft, hShown,
    ← renderAnswer]

/- They are reduced alike. -/
theorem reduceAnswer_congr (steps : Bool) :
    reduceAnswer ⟨a, steps⟩ = reduceAnswer ⟨b, steps⟩ := by
  have hShown : writable [a] = writable [b] :=
    writable_congr (congrArg ([·]) hLeft.2)
  simp only [reduceAnswer, resolved_congr hLeft, hShown]

include hRight

/-
  They are compared alike.  With a seed the fresh source is
  not looked at.
-/
theorem compareAnswer_congr
    (s : Settings)
    (fresh fresh₂ : Twister)
    (seed : Int)
    (trials : Option Int) :
    compareAnswer s fresh ⟨a, c, some seed, trials⟩ =
      compareAnswer s fresh₂ ⟨b, d, some seed, trials⟩ := by
  have hShown : writable [a, c] = writable [b, d] :=
    writable_congr (congrArg₂ ([·, ·]) hLeft.2 hRight.2)
  have hSource :
      s.source (some seed) fresh =
        s.source (some seed) fresh₂ := rfl
  simp only [compareAnswer, resolved_congr hLeft,
    resolved_congr hRight, hShown, hSource]

end Congruence

end Service

------------------------------------------------------------
-- Surroundings
------------------------------------------------------------

/- The fields of an object before and after one of them. -/
structure Surroundings where
  before : List (String × Json)
  after : List (String × Json)

namespace Surroundings

/- The fields around the one. -/
def others (o : Surroundings) : List (String × Json) :=
  o.before ++ o.after

/- The fields with the one between them. -/
def fields
    (o : Surroundings)
    (f : String × Json) : List (String × Json) :=
  o.before ++ f :: o.after

/- No other field has the key. -/
def Lacks (o : Surroundings) (key : String) : Prop :=
  key ∉ o.others.map Prod.fst

instance
    (o : Surroundings)
    (key : String) :
    Decidable (o.Lacks key) :=
  inferInstanceAs (Decidable (key ∉ o.others.map Prod.fst))

/- The key of the one is not among the others. -/
theorem lookup?_fields_self
    {o : Surroundings}
    {key : String}
    (h : o.Lacks key)
    (v : Json) :
    Json.lookup? key (o.fields (key, v)) = some v := by
  rcases o with ⟨before, after⟩
  have hBefore : key ∉ before.map Prod.fst := fun hMem =>
    h (List.map_append ▸ List.mem_append_left _ hMem)
  show Json.lookup? key (before ++ (key, v) :: after) = some v
  clear h
  induction before with
  | nil => exact if_pos rfl
  | cons g rest ih =>
      rw [List.map_cons, List.mem_cons, not_or] at hBefore
      rw [List.cons_append, Json.lookup?,
        if_neg (Ne.symm hBefore.1)]
      exact ih hBefore.2

/- Any other key is looked up among the others. -/
theorem lookup?_fields_of_ne
    {key other : String}
    (o : Surroundings)
    (h : other ≠ key)
    (v : Json) :
    Json.lookup? key (o.fields (other, v)) =
      Json.lookup? key o.others := by
  rcases o with ⟨before, after⟩
  show Json.lookup? key (before ++ (other, v) :: after) =
    Json.lookup? key (before ++ after)
  induction before with
  | nil => exact if_neg h
  | cons g rest ih =>
      rw [List.cons_append, List.cons_append, Json.lookup?, ih,
        ← Json.lookup?]

/- A key that the others lack is not found among them. -/
theorem lookup?_others
    {o : Surroundings}
    {key : String}
    (h : o.Lacks key) :
    Json.lookup? key o.others = none := by
  cases hFound : Json.lookup? key o.others with
  | none => rfl
  | some v =>
      exact absurd (List.mem_map_of_mem
        (Json.mem_of_lookup? hFound)) h

end Surroundings

namespace Surroundings

variable {rule : Json.LengthRule} {o : Surroundings}

/- A plain value is plain among others that are plain. -/
theorem plain_fields
    {f g : String × Json}
    (hPlain : Json.Plain rule (.object (o.fields f)))
    (hLacks : o.Lacks g.1)
    (hValue : Json.Plain rule g.2) :
    Json.Plain rule (.object (o.fields g)) := by
  rw [Json.Plain, Json.plainFields_iff] at hPlain ⊢
  rcases hPlain with ⟨hKeys, hValues⟩
  have hOthers : (o.others.map Prod.fst).Nodup := by
    rw [fields, List.map_append, List.map_cons,
      List.nodup_middle, List.nodup_cons] at hKeys
    rw [others, List.map_append]
    exact hKeys.2
  constructor
  · rw [fields, List.map_append, List.map_cons,
      List.nodup_middle, List.nodup_cons, ← List.map_append]
    exact ⟨hLacks, hOthers⟩
  · intro h hMem
    rcases List.mem_append.mp hMem with hMem | hMem
    · exact hValues h (List.mem_append_left _ hMem)
    · rcases List.mem_cons.mp hMem with rfl | hMem
      · exact hValue
      · exact hValues h (List.mem_append_right _
          (List.mem_cons_of_mem _ hMem))

/- The value between other fields is plain if all are. -/
theorem plain_of_fields
    {f : String × Json}
    (h : Json.Plain rule (.object (o.fields f))) :
    Json.Plain rule f.2 := by
  rw [Json.Plain, Json.plainFields_iff] at h
  exact h.2 f (List.mem_append_right _ List.mem_cons_self)

end Surroundings

------------------------------------------------------------
-- Submissions in Their Surroundings
------------------------------------------------------------

/- The value of a tree is not null. -/
theorem Tree.toJson_ne_null (t : Tree) : t.toJson ≠ .null := by
  cases t with
  | num | var | neg | bin => exact Json.noConfusion

namespace Submission

section Parts

variable {o : Surroundings}

variable (hText : o.Lacks "text") (hTree : o.Lacks "tree")

include hText hTree

/- A text that is not too long is the part that is given. -/
theorem parts_text
    {text : String}
    (hLength : text.length ≤ textLimit) :
    parts (o.fields ("text", .text text)) =
      .ok (some text, none) := by
  have hTaken :
      Scalar.textUpTo textLimit (.text text) = .ok text :=
    if_neg (Nat.not_lt.mpr hLength)
  have hOther :
      Json.lookup? "tree" (o.fields ("text", .text text)) =
        none := by
    rw [o.lookup?_fields_of_ne (by decide) _,
      Surroundings.lookup?_others hTree]
  rw [parts, defaulted, defaulted, hOther,
    Surroundings.lookup?_fields_self hText]
  simp only [Checked.taken, Scalar.optional, hTaken]
  rfl

/- So is the value of a tree. -/
theorem parts_tree (t : Tree) :
    parts (o.fields ("tree", t.toJson)) =
      .ok (none, some (.tree t)) := by
  have hRead : treeOfJson t.toJson = .ok (.tree t) := by
    rw [treeOfJson, Tree.ofJson_toJson]
  have hTaken :
      Scalar.optional treeOfJson t.toJson =
        .ok (some (.tree t)) := by
    rw [Scalar.optional_of_ne_null _ t.toJson_ne_null, hRead]
    rfl
  have hOther :
      Json.lookup? "text" (o.fields ("tree", t.toJson)) =
        none := by
    rw [o.lookup?_fields_of_ne (by decide) _,
      Surroundings.lookup?_others hText]
  rw [parts, defaulted, defaulted, hOther,
    Surroundings.lookup?_fields_self hTree]
  simp only [hTaken]
  rfl

/- A text is read whatever else is in the object. -/
theorem ofJson_text
    {text : String}
    (hLength : text.length ≤ textLimit) :
    ofJson (.object (o.fields ("text", .text text))) =
      .ok (.text text) := by
  simp only [ofJson, objectFields, ofFields,
    parts_text hText hTree hLength, choose]

/- So is a tree. -/
theorem ofJson_tree (t : Tree) :
    ofJson (.object (o.fields ("tree", t.toJson))) =
      .ok (.tree t) := by
  simp only [ofJson, objectFields, ofFields,
    parts_tree hText hTree t, choose]

end Parts

end Submission

------------------------------------------------------------
-- Comparisons
------------------------------------------------------------

/-
  Two readings of a submission that lead to submissions that
  are alike, or to the same issues.
-/
inductive Submission.ReadAlike :
    Checked Submission → Checked Submission → Prop where
| ok {a b : Submission} :
    a.Alike b → ReadAlike (.ok a) (.ok b)
| error (issues : List Issue) :
    ReadAlike (.error issues) (.error issues)

/- Every reading is like itself. -/
theorem Submission.ReadAlike.refl (c : Checked Submission) :
    ReadAlike c c := by
  cases c with
  | ok a => exact .ok (.refl a)
  | error issues => exact .error issues

/- Readings that are alike are so under any name. -/
theorem Submission.ReadAlike.under
    {c d : Checked Submission}
    (h : ReadAlike c d)
    (part : String) :
    ReadAlike (c.under part) (d.under part) := by
  cases h with
  | ok hAlike => exact .ok hAlike
  | error issues => exact .error _

namespace CompareBody

/- The seed and the number of trials of a comparison. -/
def manner
    (fields : List (String × Json)) :
    Checked (Option Int × Option Int) :=
  Checked.both
    (defaulted "seed" fields
      (Checked.taken (Scalar.optional Scalar.integer)) none)
    (defaulted "trials" fields
      (Checked.taken
        (Scalar.optional
          (Scalar.integerBetween 1 1000))) none)

/- A comparison of what is read for its parts. -/
def compose
    (left right : Checked Submission)
    (rest : Checked (Option Int × Option Int)) :
    Checked CompareBody :=
  (Checked.both left (Checked.both right rest)).map
    fun (l, r, seed, trials) => ⟨l, r, seed, trials⟩

section Fields

variable {fields fields₂ : List (String × Json)}

/- A body with both operands is composed of its parts. -/
theorem ofJson_eq_compose
    {v w : Json}
    (hLeft : Json.lookup? "expr1" fields = some v)
    (hRight : Json.lookup? "expr2" fields = some w) :
    ofJson (.object fields) =
      compose (Checked.under "expr1" (Submission.ofJson v))
        (Checked.under "expr2" (Submission.ofJson w))
        (manner fields) := by
  simp only [ofJson, objectFields, required_eq hLeft,
    required_eq hRight]
  rfl

/- Its manner depends on two fields only. -/
theorem manner_congr
    (hSeed :
      Json.lookup? "seed" fields =
        Json.lookup? "seed" fields₂)
    (hTrials :
      Json.lookup? "trials" fields =
        Json.lookup? "trials" fields₂) :
    manner fields = manner fields₂ := by
  rw [manner, defaulted_congr hSeed, defaulted_congr hTrials,
    ← manner]

/- A seed that is given and not null is a number. -/
theorem isSome_seed_of_manner
    {v : Json}
    {seed trials : Option Int}
    (hField : Json.lookup? "seed" fields = some v)
    (hNull : v ≠ .null)
    (h : manner fields = .ok (seed, trials)) :
    seed.isSome = true := by
  have hSeed := (Checked.both_eq_ok.mp h).1
  rw [defaulted, hField] at hSeed
  have hTaken :=
    Checked.taken_eq_ok.mp (Checked.under_eq_ok.mp hSeed)
  rw [Scalar.optional_of_ne_null _ hNull] at hTaken
  rcases map_eq_ok.mp hTaken with ⟨n, _, rfl⟩
  rfl

end Fields

/- Comparisons of parts that are read alike end alike. -/
theorem compose_congr
    {left left₂ right right₂ : Checked Submission}
    {rest : Checked (Option Int × Option Int)}
    (s : Settings)
    (fresh fresh₂ : Twister)
    (hLeft : Submission.ReadAlike left left₂)
    (hRight : Submission.ReadAlike right right₂)
    (hSeed :
      ∀ seed trials, rest = .ok (seed, trials) →
        seed.isSome = true) :
    (compose left right rest).map
        (Service.compareAnswer s fresh) =
      (compose left₂ right₂ rest).map
        (Service.compareAnswer s fresh₂) := by
  cases hLeft with
  | error issues =>
      cases hRight with
      | ok | error => cases rest with | ok | error => rfl
  | ok hFirst =>
      cases hRight with
      | error issues => cases rest with | ok | error => rfl
      | ok hSecond =>
          cases rest with
          | error issues => rfl
          | ok pair =>
              rcases pair with ⟨seed, trials⟩
              rcases Option.isSome_iff_exists.mp
                (hSeed seed trials rfl) with ⟨n, rfl⟩
              exact congrArg Except.ok
                (Service.compareAnswer_congr hFirst hSecond s
                  fresh fresh₂ n trials)

end CompareBody

end Termwise
