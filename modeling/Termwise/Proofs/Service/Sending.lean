import Termwise.Proofs.Equivalence.Range
import Termwise.Proofs.Service.Status

/-
  What the service answers can be sent by every serialiser:
  all integers in it have few enough digits to be written as
  texts, all doubles are finite, and no text is broken.

  The serialiser of the service asks for less, since it
  writes integers of any length.  So an answer by settings
  with longer integers is sent as well, but a serialiser that
  goes by the limit of digits would refuse it.

  Key definitions include:
    * `Json.IsSent`
    * `Settings.Short`
    * `Service.Sends`

  Main declarations:
    * `Tree.sent_shown`
    * `Report.sent_toJson`
    * `Service.sends_parseAnswer`
    * `Service.sends_reduceAnswer`
    * `Service.sends_renderAnswer`
    * `Service.sends_compareAnswer`
-/

namespace Termwise

/-
  A value without parts can be written in a response, also by
  a serialiser with the limit of digits that texts have.
-/
def Json.IsSent : Json → Prop
| int n => Text.Writable n.natAbs
| float d => d.isFinite = true
| broken => False
| _ => True

open Json (Everywhere IsSent everywhere_object everywhere_list)

------------------------------------------------------------
-- Trees
------------------------------------------------------------

namespace Tree

/- A tree that can be written can be sent. -/
theorem sent_toJson
    {t : Tree}
    (h : t.Writable) :
    Everywhere IsSent t.toJson := by
  induction t with
  | num n =>
      have hNumber := writable_num.mp h
      simpa [toJson, Everywhere, Json.InFields, IsSent]
        using hNumber
  | var x => simp [toJson, Everywhere, Json.InFields, IsSent]
  | neg t ih =>
      have hArg := ih h
      simpa [toJson, Everywhere, Json.InFields, IsSent]
        using hArg
  | bin op l r ihLeft ihRight =>
      rcases writable_bin.mp h with ⟨hLeft, hRight⟩
      simpa [toJson, Everywhere, Json.InFields, IsSent]
        using And.intro (ihLeft hLeft) (ihRight hRight)

/- So can the fields with its written forms. -/
theorem sent_formFields (t : Tree) :
    ∀ f ∈ t.formFields, Everywhere IsSent f.2 := by
  simp [formFields, Everywhere, IsSent]

/- So can the tree with these. -/
theorem sent_shown
    {t : Tree}
    (h : t.Writable) :
    Everywhere IsSent t.shown :=
  everywhere_object.mpr
    (List.forall_mem_cons.mpr ⟨sent_toJson h, t.sent_formFields⟩)

end Tree

------------------------------------------------------------
-- Reports
------------------------------------------------------------

/- Texts can be sent. -/
theorem sent_texts (texts : List String) :
    Everywhere IsSent (.list (texts.map .text)) := by
  rw [everywhere_list]
  simp [Everywhere, IsSent]

/- A double is finite, or there is null in its place. -/
theorem sent_finiteOrNull (d : Double) :
    Everywhere IsSent (finiteOrNull d) := by
  cases d with
  | finite negative m e => rfl
  | infinite | nan => trivial

/- What is not greater can be written as well. -/
theorem Text.Writable.mono
    {m n : Nat}
    (h : Writable n)
    (hLess : m ≤ n) :
    Writable m :=
  Nat.lt_of_le_of_lt hLess h

/- So can an integer between two of them. -/
theorem Text.Writable.between
    {low high n : Int}
    (hLow : Writable low.natAbs)
    (hHigh : Writable high.natAbs)
    (hMore : low ≤ n)
    (hLess : n < high) :
    Writable n.natAbs := by
  rcases Nat.le_total low.natAbs high.natAbs with h | h
  · exact hHigh.mono (by omega)
  · exact hLow.mono (by omega)

/- So can every number of trials that may be asked for. -/
theorem Text.writable_of_trials
    {n : Int}
    (h : 1 ≤ n ∧ n ≤ 1000) :
    Writable n.natAbs := by
  have hThousand : Writable 1000 := by decide +kernel
  exact hThousand.mono (by omega)

/- A counterexample of short integers can be sent. -/
theorem Counterexample.sent_toJson
    {c : Counterexample}
    (h : ∀ f ∈ c.assignment, Text.Writable f.2.natAbs) :
    Everywhere IsSent c.toJson := by
  have hAssignment :
      Everywhere IsSent
        (.object (c.assignment.map fun f =>
          (f.1, .int f.2))) := by
    rw [everywhere_object, List.forall_mem_map]
    exact h
  have hLeft := sent_finiteOrNull c.left
  have hRight := sent_finiteOrNull c.right
  exact ⟨hAssignment, hLeft, hRight, trivial⟩

/- A report within short settings can be sent. -/
theorem Report.sent_toJson
    {r : Report}
    {cfg : Config}
    (hWithin : r.Within cfg)
    (hTrials : Text.Writable cfg.trials)
    (hLow : Text.Writable cfg.low.natAbs)
    (hHigh : Text.Writable cfg.high.natAbs) :
    Everywhere IsSent r.toJson := by
  have hNames := sent_texts r.names
  have hRun : Text.Writable r.trialsRun :=
    hTrials.mono hWithin.trialsRun
  have hSkipped : Text.Writable r.trialsSkipped :=
    hTrials.mono hWithin.trialsSkipped
  rw [Report.toJson]
  cases hCounter : r.counterexample with
  | none =>
      exact ⟨trivial, hNames, hRun, hSkipped, trivial, trivial⟩
  | some c =>
      have hFound : Everywhere IsSent c.toJson := by
        apply Counterexample.sent_toJson
        intro f hf
        rcases hWithin.assigned c hCounter f hf with
          ⟨hMore, hLess⟩
        exact .between hLow hHigh hMore hLess
      exact ⟨trivial, hNames, hRun, hSkipped, hFound, trivial⟩

------------------------------------------------------------
-- Answers
------------------------------------------------------------

namespace Service

/- An answer can be sent if it is given. -/
def Sends (answer : Except ServiceFault Json) : Prop :=
  ∀ j, answer = .ok j → Everywhere IsSent j

/- An answer that can be sent is sent. -/
theorem sends_ok
    {j : Json}
    (h : Everywhere IsSent j) :
    Sends (.ok j) := by
  intro i hSame
  cases hSame
  exact h

/- An answer that follows something follows its result. -/
theorem sends_bind
    {α : Type}
    {a : Except ServiceFault α}
    {next : α → Except ServiceFault Json}
    (h : ∀ x, a = .ok x → Sends (next x)) :
    Sends (a >>= next) := by
  intro j hAnswer
  rcases bind_eq_ok.mp hAnswer with ⟨x, hFirst, hNext⟩
  exact h x hFirst j hNext

/- A tree that is read from a text is sent. -/
theorem sends_parseAnswer (text : String) :
    Sends (parseAnswer text) := by
  refine sends_bind fun t hResolved => ?_
  have hParse : parse text = .ok t :=
    mapError_eq_ok.mp hResolved
  have hTree : t.Writable := writable_of_parse hParse
  rw [Tree.view_eq hTree]
  exact sends_ok (Tree.sent_shown hTree)

/- The written forms of an expression are sent. -/
theorem sends_renderAnswer (s : Submission) :
    Sends (renderAnswer s) := by
  refine sends_bind fun t _ => sends_bind fun _ _ =>
    sends_bind fun forms hForms => sends_ok ?_
  rw [Tree.forms_eq_ok (mapError_eq_ok.mp hForms)]
  exact everywhere_object.mpr t.sent_formFields

/- A reduction is sent with its result and its steps. -/
theorem sends_reduceAnswer (b : ReduceBody) :
    Sends (reduceAnswer b) := by
  refine sends_bind fun t _ => sends_bind fun _ _ =>
    sends_bind fun r hTrace => ?_
  rcases Tree.trace_eq_ok.mp (mapError_eq_ok.mp hTrace) with
    ⟨⟨hTree, hReduced, _⟩, rfl⟩
  rw [Tree.view_eq hTree]
  show Sends (written t.reduce.view >>= _)
  rw [Tree.view_eq hReduced]
  refine sends_ok ?_
  exact ⟨Tree.sent_shown hTree, Tree.sent_shown hReduced,
    sent_texts _, trivial⟩

end Service

/- Settings whose integers can be written. -/
structure Settings.Short (s : Settings) : Prop where
  trials : Text.Writable s.trials.natAbs
  low : Text.Writable s.low.natAbs
  high : Text.Writable s.high.natAbs

/- So can the number of trials that is asked for. -/
theorem Settings.Short.writable_trials
    {s : Settings}
    {trials : Option Int}
    (h : s.Short)
    (hTrials : ∀ n ∈ trials, 1 ≤ n ∧ n ≤ 1000) :
    Text.Writable (trials.getD s.trials).toNat := by
  cases trials with
  | none =>
      show Text.Writable s.trials.toNat
      exact h.trials.mono (by omega)
  | some n =>
      have hRange := hTrials n rfl
      show Text.Writable n.toNat
      exact (Text.writable_of_trials hRange).mono (by omega)

namespace Service

/- The report of a comparison by short settings is sent. -/
theorem sends_compareAnswer
    {s : Settings}
    {b : CompareBody}
    (fresh : Twister)
    (hShort : s.Short)
    (hTrials : ∀ n ∈ b.trials, 1 ≤ n ∧ n ≤ 1000) :
    Sends (compareAnswer s fresh b) := by
  refine sends_bind fun t _ => sends_bind fun u _ =>
    sends_bind fun _ _ => sends_bind fun cfg hConfig =>
    sends_bind fun report hCheck => sends_ok ?_
  rcases Config.make_eq_ok (mapError_eq_ok.mp hConfig) with
    ⟨_, _, hCount, hLow, hHigh, _⟩
  have hReport :
      check cfg t u (s.source b.seed fresh) =
        (.ok report,
          (check cfg t u (s.source b.seed fresh)).2) := by
    rw [← mapError_eq_ok.mp hCheck]
  have hWithin := within_of_check Twister.inRange hReport
  have hCounted : Text.Writable cfg.trials := by
    rw [hCount]
    exact hShort.writable_trials hTrials
  refine ⟨Report.sent_toJson hWithin hCounted ?_ ?_, trivial⟩
  · rw [hLow]
    exact hShort.low
  · rw [hHigh]
    exact hShort.high

end Service

end Termwise
