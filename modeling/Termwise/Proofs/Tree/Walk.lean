import Termwise.Proofs.Tree.Depth

/-
  The walk that finds the depth of a tree, one turn after
  the other.  A turn visits the first of the pending
  subtrees and puts its operands in its place, so a walk has
  as many turns as there are nodes.

  Key definitions include:
    * `Tree.beneath`
    * `Walk`
    * `Walk.turn?`
    * `Walk.Turns`

  Main declarations:
    * `Walk.turn?_deepest`
    * `Walk.turn?_pendingSize`
    * `Walk.exists_turns`
    * `Tree.walk_finds_depth`
-/

namespace Termwise

open Termwise.Tree

------------------------------------------------------------
-- Visiting a Node
------------------------------------------------------------

namespace Tree

/-
  The operands of a tree that stands on a level, the last of
  them first, on the level below.
-/
def beneath (level : Nat) : Tree → List (Tree × Nat)
| num _ => []
| var _ => []
| neg t => [(t, level + 1)]
| bin _ l r => [(r, level + 1), (l, level + 1)]

/- The walk goes on with the operands of a subtree. -/
theorem deepest_cons
    (best level : Nat)
    (t : Tree)
    (rest : List (Tree × Nat)) :
    deepest best ((t, level) :: rest) =
      deepest (max best level) (t.beneath level ++ rest) := by
  cases t with
  | num | var | neg | bin =>
      rw [deepest]
      rfl

/- The node itself is pending no more. -/
theorem pendingSize_beneath
    (level : Nat)
    (t : Tree)
    (rest : List (Tree × Nat)) :
    pendingSize (t.beneath level ++ rest) + 1 =
      pendingSize ((t, level) :: rest) := by
  cases t with
  | num | var | neg | bin =>
      simp only [beneath, List.cons_append, List.nil_append,
        pendingSize, size]
      omega

end Tree

------------------------------------------------------------
-- Turns
------------------------------------------------------------

/-
  How far a walk has come: the deepest level that it has met,
  and the subtrees still to visit with their levels.
-/
structure Walk where
  best : Nat
  pending : List (Tree × Nat)
deriving DecidableEq, Repr

namespace Walk

/- A walk that has a whole tree before it. -/
def start (t : Tree) : Walk :=
  ⟨0, [(t, 1)]⟩

/- One turn of a walk, unless nothing is left to visit. -/
def turn? : Walk → Option Walk
| ⟨_, []⟩ => none
| ⟨best, (t, level) :: rest⟩ =>
    some ⟨max best level, t.beneath level ++ rest⟩

/- A number of turns leads from a walk to another. -/
inductive Turns : Nat → Walk → Walk → Prop where
| none (w : Walk) : Turns 0 w w
| next
    {n : Nat}
    {u v w : Walk} :
    u.turn? = some v →
    Turns n v w →
    Turns (n + 1) u w

/- A turn visits the first of the pending subtrees. -/
theorem turn?_eq_some
    {u v : Walk}
    (h : u.turn? = some v) :
    ∃ t level rest, u.pending = (t, level) :: rest ∧
      v = ⟨max u.best level, t.beneath level ++ rest⟩ := by
  rcases u with ⟨best, pending⟩
  cases pending with
  | nil => cases h
  | cons first rest =>
      cases h
      exact ⟨first.1, first.2, rest, rfl, rfl⟩

/- It does not change what the walk is going to find. -/
theorem turn?_deepest
    {u v : Walk}
    (h : u.turn? = some v) :
    deepest v.best v.pending = deepest u.best u.pending := by
  rcases turn?_eq_some h with ⟨t, level, rest, hPending, rfl⟩
  rw [hPending, deepest_cons]

/- It leaves one node less to visit. -/
theorem turn?_pendingSize
    {u v : Walk}
    (h : u.turn? = some v) :
    pendingSize v.pending + 1 = pendingSize u.pending := by
  rcases turn?_eq_some h with ⟨t, level, rest, hPending, rfl⟩
  rw [hPending, pendingSize_beneath]

/- A walk is at its end, or there is another turn. -/
theorem pending_eq_nil_or_turn (w : Walk) :
    w.pending = [] ∨ ∃ v, w.turn? = some v := by
  rcases w with ⟨best, pending⟩
  cases pending with
  | nil => exact .inl rfl
  | cons first rest => exact .inr ⟨_, rfl⟩

------------------------------------------------------------
-- Many Turns
------------------------------------------------------------

namespace Turns

/- Many turns do not change what is going to be found. -/
theorem deepest_eq
    {n : Nat}
    {u v : Walk}
    (h : Turns n u v) :
    deepest v.best v.pending = deepest u.best u.pending := by
  induction h with
  | none w => rfl
  | next hTurn _ ih => exact ih.trans (turn?_deepest hTurn)

/- Every turn has visited a node. -/
theorem pendingSize_eq
    {n : Nat}
    {u v : Walk}
    (h : Turns n u v) :
    pendingSize v.pending + n = pendingSize u.pending := by
  induction h with
  | none w => rfl
  | next hTurn _ ih =>
      have hNode := turn?_pendingSize hTurn
      omega

end Turns

/- A walk goes on until it has visited every node. -/
theorem exists_turns (w : Walk) :
    ∃ v, Turns (pendingSize w.pending) w v ∧
      v.pending = [] := by
  generalize hSize : pendingSize w.pending = n
  induction n generalizing w with
  | zero =>
      rcases w.pending_eq_nil_or_turn with hEnd | ⟨v, hTurn⟩
      · exact ⟨w, .none w, hEnd⟩
      · have hNode := turn?_pendingSize hTurn
        omega
  | succ n ih =>
      rcases w.pending_eq_nil_or_turn with hEnd | ⟨v, hTurn⟩
      · rw [hEnd] at hSize
        cases hSize
      · have hNode := turn?_pendingSize hTurn
        rcases ih v (by omega) with ⟨u, hTurns, hEnd⟩
        exact ⟨u, .next hTurn hTurns, hEnd⟩

end Walk

------------------------------------------------------------
-- The Walk Through a Tree
------------------------------------------------------------

namespace Tree

/-
  The walk through a tree comes to its end after one turn for
  each node, and no walk through it is longer.  What it has
  found then are the levels of the tree, and these are its
  depth.
-/
theorem walk_finds_depth (t : Tree) :
    Walk.Turns t.size (Walk.start t) ⟨t.levels, []⟩ ∧
      (∀ n w, Walk.Turns n (Walk.start t) w → n ≤ t.size) ∧
      t.levels = t.depth := by
  have hSize :
      pendingSize (Walk.start t).pending = t.size :=
    Nat.add_zero t.size
  refine ⟨?_, ?_, t.levels_eq_depth⟩
  · rcases (Walk.start t).exists_turns with
      ⟨⟨best, _⟩, hTurns, rfl⟩
    have hFound : best = t.levels := by
      have hKept := hTurns.deepest_eq
      rw [deepest] at hKept
      exact hKept
    rw [hSize, hFound] at hTurns
    exact hTurns
  · intro n w hTurns
    have hVisited := hTurns.pendingSize_eq
    omega

/-
  In `1 - -x` the variable is the deepest node, and the walk
  has met it before it visits the number.
-/
theorem walk_finds_depth_sign :
    let t := bin .sub (num 1) (neg (var "x"))
    let u : Walk := ⟨3, [(num 1, 2)]⟩
    Walk.Turns 3 (Walk.start t) u ∧ 3 ≤ t.size ∧
      Walk.Turns 4 (Walk.start t) ⟨3, []⟩ ∧ t.levels = 3 := by
  intro t u
  have hTurns : Walk.Turns 3 (Walk.start t) u :=
    .next rfl (.next rfl (.next rfl (.none u)))
  rcases t.walk_finds_depth with ⟨hEnd, hBound, hDepth⟩
  have hLevels : t.levels = 3 := hDepth
  rw [hLevels] at hEnd
  exact ⟨hTurns, hBound 3 u hTurns, hEnd, hLevels⟩

end Tree

end Termwise
