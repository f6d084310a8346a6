/-
  This file defines sources of random integers, and two that
  are not random: a list of samples that is used over and
  over, and a tape on which every draw is written.

  Key definitions include:
    * `Source`
    * `Samples`
    * `Tape`
    * `Recorded`
    * `Recorded.draws`
-/

namespace Termwise

------------------------------------------------------------
-- Sources
------------------------------------------------------------

/-
  A source of random integers.  `draw low high` asks for an
  integer from `low` up to but without `high`, and leaves
  the source in its next state.
-/
class Source (σ : Type) where
  draw : Int → Int → σ → Int × σ

------------------------------------------------------------
-- Samples
------------------------------------------------------------

/- Samples that are drawn in turn, again and again. -/
structure Samples where
  all : List Int
  left : List Int
deriving DecidableEq, Repr

namespace Samples

/- Samples of which none is drawn yet. -/
def ofList (xs : List Int) : Samples :=
  ⟨xs, xs⟩

/- Draw the next sample, whatever the range. -/
def next (s : Samples) : Int × Samples :=
  match s.left with
  | x :: rest => (x, ⟨s.all, rest⟩)
  | [] =>
      match s.all with
      | x :: rest => (x, ⟨s.all, rest⟩)
      | [] => (0, s)

instance : Source Samples where
  draw _ _ s := s.next

end Samples

------------------------------------------------------------
-- Tapes
------------------------------------------------------------

/- An endless row of integers and the place of the next one. -/
structure Tape where
  values : Nat → Int
  place : Nat

namespace Tape

instance : Source Tape where
  draw _ _ t := (t.values t.place, ⟨t.values, t.place + 1⟩)

end Tape

------------------------------------------------------------
-- Recorded Sources
------------------------------------------------------------

/- A source with the ranges that were asked for, last first. -/
structure Recorded (σ : Type) where
  source : σ
  asked : List (Int × Int)
deriving Repr

namespace Recorded

variable {σ : Type}

/- A source of which nothing has been asked. -/
def start (s : σ) : Recorded σ :=
  ⟨s, []⟩

/- The ranges that were asked for, in order. -/
def draws (r : Recorded σ) : List (Int × Int) :=
  r.asked.reverse

instance [Source σ] : Source (Recorded σ) where
  draw low high r :=
    let (x, s) := Source.draw low high r.source
    (x, ⟨s, (low, high) :: r.asked⟩)

end Recorded

end Termwise
