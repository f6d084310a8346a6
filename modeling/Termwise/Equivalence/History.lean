import Termwise.Equivalence.Check

/-
  This file defines a checker that answers one request after
  the other from the same settings and the same source.

  Key definitions include:
    * `Query`
    * `Answer`
    * `Checker`
    * `Checker.serve`
    * `Checker.serveAll`
-/

namespace Termwise

/- What a checker is asked for. -/
inductive Query where
| report : Tree → Tree → Query
| verdict : Tree → Tree → Query
| settings : Query
deriving DecidableEq, Repr

/- What a checker answers. -/
inductive Answer where
| report : Report → Answer
| verdict : Bool → Answer
| settings : Config → Answer
| failed : CheckFault → Answer

/- The settings of a checker and the state of its source. -/
structure Checker (σ : Type) where
  config : Config
  source : σ

namespace Checker

variable {σ : Type} [Source σ]

/- Answer one request. -/
def serve
    (c : Checker σ) : Query → Answer × Checker σ
| .report t u =>
    match check c.config t u c.source with
    | (.ok r, s) => (.report r, ⟨c.config, s⟩)
    | (.error f, s) => (.failed f, ⟨c.config, s⟩)
| .verdict t u =>
    match areEquivalent c.config t u c.source with
    | (.ok b, s) => (.verdict b, ⟨c.config, s⟩)
    | (.error f, s) => (.failed f, ⟨c.config, s⟩)
| .settings => (.settings c.config, c)

/- Answer requests in turn. -/
def serveAll
    (c : Checker σ) : List Query → List Answer × Checker σ
| [] => ([], c)
| q :: qs =>
    let (a, c) := c.serve q
    let (rest, c) := c.serveAll qs
    (a :: rest, c)

end Checker

end Termwise
