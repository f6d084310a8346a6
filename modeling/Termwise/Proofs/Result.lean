/-
  Where results come from that are changed, renamed or
  followed by others.

  Main declarations:
    * `map_eq_ok`
    * `mapError_eq_ok`
    * `bind_eq_ok`
    * `bind_eq_error`
-/

namespace Termwise

/- What a mapped result comes from. -/
theorem map_eq_ok
    {ε α β : Type}
    {x : Except ε α}
    {f : α → β}
    {b : β} :
    x.map f = .ok b ↔ ∃ a, x = .ok a ∧ f a = b := by
  cases x <;> simp [Except.map]

/- A result whose faults are renamed was one before. -/
theorem mapError_eq_ok
    {ε φ α : Type}
    {x : Except ε α}
    {f : ε → φ}
    {a : α} :
    x.mapError f = .ok a ↔ x = .ok a := by
  cases x with
  | ok b =>
      constructor
      · intro h
        cases h
        rfl
      · intro h
        cases h
        rfl
  | error e =>
      constructor
      · intro h
        cases h
      · intro h
        cases h

/- What two results in a row come from. -/
theorem bind_eq_ok
    {ε α β : Type}
    {x : Except ε α}
    {f : α → Except ε β}
    {b : β} :
    (x >>= f) = .ok b ↔ ∃ a, x = .ok a ∧ f a = .ok b := by
  cases x <;> simp [bind, Except.bind]

/- What two results in a row fail for. -/
theorem bind_eq_error
    {ε α β : Type}
    {x : Except ε α}
    {f : α → Except ε β}
    {e : ε} :
    (x >>= f) = .error e ↔
      x = .error e ∨ ∃ a, x = .ok a ∧ f a = .error e := by
  cases x <;> simp [bind, Except.bind]

end Termwise
