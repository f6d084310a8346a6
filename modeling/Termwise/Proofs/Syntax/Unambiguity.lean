import Termwise.Syntax.Grammar

/-
  Lexemes are the spelling of one tree at most.

  The levels of the grammar are folded into a reading that
  keeps what is unfinished on a stack and goes through the
  lexemes once.  A derivation, wherever it stands, drives
  that reading from the place before it to the place behind
  its tree, so two derivations of the same lexemes have the
  same tree.

  Key definitions include:
    * `Front`
    * `Stage`
    * `Stage.next`
    * `Stage.run`

  Main declarations:
    * `Derives.passes`
    * `Derives.unique`
-/

namespace Termwise

------------------------------------------------------------
-- Unfinished Expressions
------------------------------------------------------------

/- A tree that may have a left operand waiting for it. -/
def attach : Option (Tree × Op) → Tree → Tree
| none, t => t
| some (left, o), t => .bin o left t

/- A tree behind some minus signs. -/
def negatedTimes : Nat → Tree → Tree
| 0, t => t
| n + 1, t => negatedTimes n (.neg t)

/-
  What stands in front of an operand, back to the last open
  parenthesis: a sum and a product that wait for their right
  operands, and minus signs.
-/
structure Front where
  sum : Option (Tree × Op)
  product : Option (Tree × Op)
  minuses : Nat

namespace Front

/- Nothing stands in front. -/
def empty : Front :=
  ⟨none, none, 0⟩

/- The product that an operand completes. -/
def complete (f : Front) (t : Tree) : Tree :=
  attach f.product (negatedTimes f.minuses t)

end Front

------------------------------------------------------------
-- Reading With a Stack
------------------------------------------------------------

/-
  How far a reading has come.  Either an operand is due, or
  the last product is complete so far.  For every open
  parenthesis the stack keeps what stands in front of it.
-/
inductive Stage where
| due : Front → List Front → Stage
| complete :
    Option (Tree × Op) → Tree → List Front → Stage

namespace Stage

/- Go on by one lexeme, if it can stand here. -/
def next : Stage → Lexeme → Option Stage
| due f outer, .number digits =>
    some (complete f.sum
      (f.complete (.num (Text.numeralValue digits))) outer)
| due f outer, .name letters =>
    some (complete f.sum
      (f.complete (.var (String.ofList letters))) outer)
| due f outer, .op .sub =>
    some (due ⟨f.sum, f.product, f.minuses + 1⟩ outer)
| due f outer, .opening =>
    some (due .empty (f :: outer))
| due _ _, _ => none
| complete sum product outer, .op .mul =>
    some (due ⟨sum, some (product, .mul), 0⟩ outer)
| complete sum product outer, .op .div =>
    some (due ⟨sum, some (product, .div), 0⟩ outer)
| complete sum product outer, .op o =>
    some (due ⟨some (attach sum product, o), none, 0⟩ outer)
| complete sum product (f :: outer), .closing =>
    some (complete f.sum (f.complete (attach sum product)) outer)
| complete _ _ _, _ => none

/- Go on by some lexemes. -/
def run : Stage → List Lexeme → Option Stage
| s, [] => some s
| s, l :: ls => (s.next l).bind fun s₁ => s₁.run ls

/- Lexemes are read one part after the other. -/
theorem run_append
    (s : Stage)
    (ls ks : List Lexeme) :
    s.run (ls ++ ks) =
      (s.run ls).bind fun s₁ => s₁.run ks := by
  induction ls generalizing s with
  | nil => rfl
  | cons l ls ih =>
      rw [List.cons_append, run, run, Option.bind_assoc]
      congr 1
      funext s₁
      exact ih s₁

end Stage

------------------------------------------------------------
-- Reading What Is Derived
------------------------------------------------------------

/-
  A reading passes a derivation of each level in its own
  way: a primary completes the product, a product stands
  alone behind a sum, and a sum fills a pair of parentheses.
-/
def Level.Passes
    (ls : List Lexeme)
    (t : Tree) : Level → Prop
| .primary => ∀ f outer,
    (Stage.due f outer).run ls =
      some (.complete f.sum (f.complete t) outer)
| .product => ∀ sum outer,
    (Stage.due ⟨sum, none, 0⟩ outer).run ls =
      some (.complete sum t outer)
| .sum => ∀ outer, ∃ sum product,
    (Stage.due .empty outer).run ls =
      some (.complete sum product outer) ∧
    attach sum product = t

/- A reading passes what is derived. -/
theorem Derives.passes
    {level : Level}
    {ls : List Lexeme}
    {t : Tree}
    {n : Nat}
    (h : Derives level ls t n) :
    level.Passes ls t := by
  induction h with
  | number digits | name letters =>
      intro f outer
      rfl
  | negation _ ih =>
      intro f outer
      exact ih ⟨f.sum, f.product, f.minuses + 1⟩ outer
  | parentheses _ ih =>
      intro f outer
      rcases ih (f :: outer) with
        ⟨sum, product, hRun, hTree⟩
      rw [Stage.run_append, Stage.run, Stage.next,
        Option.bind_some, hRun, ← hTree]
      rfl
  | factor _ ih =>
      intro sum outer
      exact ih ⟨sum, none, 0⟩ outer
  | times o hOp _ _ ihLeft ihRight =>
      intro sum outer
      rw [Stage.run_append, ihLeft sum outer]
      rcases hOp with rfl | rfl
      · exact ihRight ⟨sum, some (_, .mul), 0⟩ outer
      · exact ihRight ⟨sum, some (_, .div), 0⟩ outer
  | term _ ih =>
      intro outer
      exact ⟨none, _, ih none outer, rfl⟩
  | plus o hOp _ _ ihLeft ihRight =>
      intro outer
      rcases ihLeft outer with ⟨sum, product, hRun, hTree⟩
      rw [Stage.run_append, hRun, ← hTree]
      rcases hOp with rfl | rfl
      · exact ⟨_, _, ihRight (some (_, .add)) outer, rfl⟩
      · exact ⟨_, _, ihRight (some (_, .sub)) outer, rfl⟩

/- Lexemes make up one expression at most. -/
theorem Derives.unique
    {ls : List Lexeme}
    {t u : Tree}
    {m n : Nat}
    (hLeft : Derives .sum ls t m)
    (hRight : Derives .sum ls u n) :
    t = u := by
  rcases hLeft.passes [] with ⟨sum, product, hRun, hTree⟩
  rcases hRight.passes [] with ⟨sum₁, product₁, hRun₁, hTree₁⟩
  rw [hRun] at hRun₁
  cases hRun₁
  rw [← hTree, ← hTree₁]

end Termwise
