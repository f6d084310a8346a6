import Termwise.Syntax.Fault
import Termwise.Syntax.Grammar

/-
  This file relates the levels of the grammar to the binding
  powers of operators, and says when tokens can be read as a
  tree within the limits.

  Key definitions include:
    * `Level.power`
    * `Op.level`
    * `Op.rightLevel`
    * `Lexeme.Short`
    * `Spells`
-/

namespace Termwise

------------------------------------------------------------
-- Levels and Powers
------------------------------------------------------------

/-
  The power that the operators of a level exceed.  A greater
  power means a narrower level.
-/
def Level.power : Level → Nat
| .primary => 20
| .product => 10
| .sum => 0

/- The level of the trees that an operator makes. -/
def Op.level : Op → Level
| .add => .sum
| .sub => .sum
| .mul => .product
| .div => .product

/- The level of the right operand of an operator. -/
def Op.rightLevel : Op → Level
| .add => .product
| .sub => .product
| .mul => .primary
| .div => .primary

/- A right operand takes in what binds more tightly. -/
theorem Op.rightLevel_power (o : Op) :
    o.rightLevel.power = o.power := by
  cases o <;> rfl

/- An operator stands next to the level of its trees. -/
theorem Op.level_power (o : Op) :
    o.level.power + 10 = o.power := by
  cases o <;> rfl

/-
  A level reaches for an operator exactly if the trees of
  that operator belong to it.
-/
theorem Level.power_lt_iff
    (level : Level)
    (o : Op) :
    level.power < o.power ↔ level.power ≤ o.level.power := by
  cases level <;> cases o <;> decide

------------------------------------------------------------
-- Derivations
------------------------------------------------------------

namespace Derives

/- What a narrow level derives, a wider one does as well. -/
theorem widen
    {narrow wide : Level}
    {ls : List Lexeme}
    {t : Tree}
    {n : Nat}
    (hLevels : wide.power ≤ narrow.power)
    (h : Derives narrow ls t n) :
    Derives wide ls t n := by
  cases narrow with
  | primary =>
      cases wide with
      | primary => exact h
      | product => exact .factor h
      | sum => exact .term (.factor h)
  | product =>
      cases wide with
      | primary => exact absurd hLevels (by decide)
      | product => exact h
      | sum => exact .term h
  | sum =>
      cases wide with
      | primary => exact absurd hLevels (by decide)
      | product => exact absurd hLevels (by decide)
      | sum => exact h

/- Two operands with an operator between them. -/
theorem operation
    {ls ks : List Lexeme}
    {t u : Tree}
    {m n : Nat}
    (o : Op)
    (hLeft : Derives o.level ls t m)
    (hRight : Derives o.rightLevel ks u n) :
    Derives o.level (ls ++ .op o :: ks) (.bin o t u)
      (max m n) := by
  cases o with
  | add => exact .plus .add (.inl rfl) hLeft hRight
  | sub => exact .plus .sub (.inr rfl) hLeft hRight
  | mul => exact .times .mul (.inl rfl) hLeft hRight
  | div => exact .times .div (.inr rfl) hLeft hRight

end Derives

------------------------------------------------------------
-- Spelling Within Limits
------------------------------------------------------------

/- A number has at most as many digits as are read. -/
def Lexeme.Short : Lexeme → Prop
| number digits => digits.length ≤ Text.digitLimit
| _ => True

/-
  Tokens spell a tree on a level, and after `nesting` open
  signs and parentheses no limit is exceeded.
-/
structure Spells
    (level : Level)
    (ts : List Token)
    (t : Tree)
    (nesting : Nat) : Prop where
  short : ∀ token ∈ ts, token.lexeme.Short
  derives :
    ∃ n, Derives level (ts.map Token.lexeme) t n ∧
      n ≤ depthLimit - nesting

namespace Spells

/- A number that is not too long spells itself. -/
theorem number
    {digits : List Char}
    (hShort : digits.length ≤ Text.digitLimit)
    (position nesting : Nat) :
    Spells .primary [⟨.number digits, position⟩]
      (.num (Text.numeralValue digits)) nesting where
  short := by
    intro token hToken
    rcases List.mem_singleton.mp hToken with rfl
    exact hShort
  derives := ⟨0, .number digits, Nat.zero_le _⟩

/- A name spells a variable. -/
theorem name
    (letters : List Char)
    (position nesting : Nat) :
    Spells .primary [⟨.name letters, position⟩]
      (.var (String.ofList letters)) nesting where
  short := by
    intro token hToken
    rcases List.mem_singleton.mp hToken with rfl
    trivial
  derives := ⟨0, .name letters, Nat.zero_le _⟩

/- A minus sign in front spells a negation. -/
theorem negation
    {ts : List Token}
    {t : Tree}
    {nesting : Nat}
    (hNesting : nesting < depthLimit)
    (h : Spells .primary ts t (nesting + 1))
    (position : Nat) :
    Spells .primary (⟨.op .sub, position⟩ :: ts) (.neg t)
      nesting := by
  rcases h.derives with ⟨n, hDerives, hLimit⟩
  constructor
  · intro token hToken
    rcases List.mem_cons.mp hToken with rfl | hLater
    · trivial
    · exact h.short token hLater
  · exact ⟨n + 1, hDerives.negation, by omega⟩

/- Parentheses around a sum spell the same tree. -/
theorem parentheses
    {ts : List Token}
    {t : Tree}
    {nesting : Nat}
    (hNesting : nesting < depthLimit)
    (h : Spells .sum ts t (nesting + 1))
    (first last : Nat) :
    Spells .primary
      (⟨.opening, first⟩ :: ts ++ [⟨.closing, last⟩]) t
      nesting := by
  rcases h.derives with ⟨n, hDerives, hLimit⟩
  constructor
  · intro token hToken
    rcases List.mem_append.mp hToken with hBefore | hLast
    · rcases List.mem_cons.mp hBefore with rfl | hInner
      · trivial
      · exact h.short token hInner
    · rcases List.mem_singleton.mp hLast with rfl
      trivial
  · refine ⟨n + 1, ?_, by omega⟩
    rw [List.map_append]
    exact hDerives.parentheses

/- What is spelled on a narrow level is so on a wider one. -/
theorem widen
    {narrow wide : Level}
    {ts : List Token}
    {t : Tree}
    {nesting : Nat}
    (hLevels : wide.power ≤ narrow.power)
    (h : Spells narrow ts t nesting) :
    Spells wide ts t nesting := by
  rcases h.derives with ⟨n, hDerives, hLimit⟩
  exact ⟨h.short, n, hDerives.widen hLevels, hLimit⟩

/- Two spelled operands with an operator between them. -/
theorem operation
    {o : Op}
    {ts us : List Token}
    {t u : Tree}
    {nesting position : Nat}
    (hLeft : Spells o.level ts t nesting)
    (hRight : Spells o.rightLevel us u nesting) :
    Spells o.level (ts ++ ⟨.op o, position⟩ :: us)
      (.bin o t u) nesting := by
  rcases hLeft.derives with ⟨m, hDerivesLeft, hLimitLeft⟩
  rcases hRight.derives with ⟨n, hDerivesRight, hLimitRight⟩
  constructor
  · intro token hToken
    rcases List.mem_append.mp hToken with hOld | hNew
    · exact hLeft.short token hOld
    · rcases List.mem_cons.mp hNew with rfl | hLater
      · trivial
      · exact hRight.short token hLater
  · refine ⟨max m n, ?_, Nat.max_le.mpr
      ⟨hLimitLeft, hLimitRight⟩⟩
    rw [List.map_append, List.map_cons]
    exact hDerivesLeft.operation o hDerivesRight

end Spells

end Termwise
