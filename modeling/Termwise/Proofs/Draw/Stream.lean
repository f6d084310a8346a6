import Termwise.Draw.Source

/-
  The integers that a source gives when it is asked for one
  range again and again.

  Key definitions include:
    * `Source.after`
    * `Source.stream`

  Main declarations:
    * `Source.draw_after`
    * `Source.after_after`
    * `Recorded.after_eq`
    * `Recorded.draws_after_start`
    * `Tape.stream_eq`
-/

namespace Termwise

------------------------------------------------------------
-- Streams
------------------------------------------------------------

namespace Source

variable {σ : Type} [Source σ]

/- A source after some draws from a range. -/
def after (low high : Int) (s : σ) : Nat → σ
| 0 => s
| n + 1 => (draw low high (after low high s n)).2

/- The integers drawn from a range, counted from zero. -/
def stream (low high : Int) (s : σ) (n : Nat) : Int :=
  (draw low high (after low high s n)).1

/- The next draw takes the stream one further. -/
theorem draw_after
    (low high : Int)
    (s : σ)
    (n : Nat) :
    draw low high (after low high s n) =
      (stream low high s n, after low high s (n + 1)) := by
  rfl

/- Draws that follow other draws go on after them. -/
theorem after_after
    (low high : Int)
    (s : σ)
    (m n : Nat) :
    after low high (after low high s m) n =
      after low high s (m + n) := by
  induction n with
  | zero => rfl
  | succ n ih => rw [after, ih, Nat.add_succ, after]

end Source

------------------------------------------------------------
-- Recorded Sources
------------------------------------------------------------

namespace Recorded

/- Draws are made from the source and written down. -/
theorem after_eq
    {σ : Type}
    [Source σ]
    (low high : Int)
    (r : Recorded σ)
    (n : Nat) :
    Source.after low high r n =
      ⟨Source.after low high r.source n,
        List.replicate n (low, high) ++ r.asked⟩ := by
  induction n with
  | zero => rfl
  | succ n ih =>
      rw [Source.after, ih, List.replicate_succ]
      rfl

/- A recorded source gives the integers of the source. -/
theorem stream_eq
    {σ : Type}
    [Source σ]
    (low high : Int)
    (r : Recorded σ) :
    Source.stream low high r =
      Source.stream low high r.source := by
  funext n
  rw [Source.stream, after_eq]
  rfl

/- All draws from one range are recorded as such. -/
theorem draws_after_start
    {σ : Type}
    [Source σ]
    (low high : Int)
    (s : σ)
    (n : Nat) :
    (Source.after low high (start s) n).draws =
      List.replicate n (low, high) := by
  rw [after_eq, draws, start, List.append_nil,
    List.reverse_replicate]

end Recorded

------------------------------------------------------------
-- Tapes
------------------------------------------------------------

namespace Tape

/- Draws take a tape forward. -/
theorem after_eq
    (low high : Int)
    (values : Nat → Int)
    (n : Nat) :
    Source.after low high (Tape.mk values 0) n =
      ⟨values, n⟩ := by
  induction n with
  | zero => rfl
  | succ n ih =>
      rw [Source.after, ih]
      rfl

/- The stream of a tape is what is written on it. -/
theorem stream_eq
    (low high : Int)
    (values : Nat → Int) :
    Source.stream low high (Tape.mk values 0) = values := by
  funext n
  rw [Source.stream, after_eq]
  rfl

end Tape

end Termwise
