import Termwise.Tree.Basic

/-
  This file defines how deep a tree is, in two ways: by
  recursion on the tree, and by a walk that keeps the
  subtrees it has still to visit in a list.

  Key definitions include:
    * `Tree.depth`
    * `Tree.deepest`
    * `Tree.levels`
-/

namespace Termwise

namespace Tree

------------------------------------------------------------
-- Depth by Recursion
------------------------------------------------------------

/- The number of levels of a tree; a leaf has one. -/
def depth : Tree → Nat
| num _ => 1
| var _ => 1
| neg t => 1 + t.depth
| bin _ l r => 1 + max l.depth r.depth

------------------------------------------------------------
-- Depth by a Walk
------------------------------------------------------------

/- The number of nodes in the subtrees still to visit. -/
def pendingSize : List (Tree × Nat) → Nat
| [] => 0
| (t, _) :: rest => t.size + pendingSize rest

/-
  Visit the pending subtrees, each with the level that it
  stands on, and return the deepest level met.
-/
def deepest
    (best : Nat)
    (pending : List (Tree × Nat)) : Nat :=
  match pending with
  | [] => best
  | (num _, level) :: rest => deepest (max best level) rest
  | (var _, level) :: rest => deepest (max best level) rest
  | (neg t, level) :: rest =>
      deepest (max best level) ((t, level + 1) :: rest)
  | (bin _ l r, level) :: rest =>
      deepest (max best level)
        ((r, level + 1) :: (l, level + 1) :: rest)
termination_by pendingSize pending
decreasing_by
  all_goals simp only [pendingSize, size]; omega

/- The number of levels of a tree, found without recursion. -/
def levels (t : Tree) : Nat :=
  deepest 0 [(t, 1)]

end Tree

end Termwise
