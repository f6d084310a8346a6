import Termwise.Proofs.Result
import Termwise.Syntax.Parse

/-
  This file states what the readers of expressions return,
  apart from the proof that they advance, and unfolds them
  one step at a time.

  Key definitions include:
    * `Cursor.operator?`
    * `readExpression`
    * `readClimb`
    * `readOperand`
    * `readClosing`
-/

namespace Termwise

------------------------------------------------------------
-- Readers
------------------------------------------------------------

/- The operator that a cursor stands before. -/
def Cursor.operator? (c : Cursor) : Option Op :=
  match c.rest with
  | [] => none
  | token :: _ => token.lexeme.operator?

/- What `expression` returns. -/
def readExpression
    (power : Nat)
    (c : Cursor) : Except SyntaxFault (Tree × Cursor) :=
  (expression power c).map Subtype.val

/- What `climb` returns. -/
def readClimb
    (power : Nat)
    (left : Tree)
    (c : Cursor) : Except SyntaxFault (Tree × Cursor) :=
  (climb power left c).map Subtype.val

/- What `operand` returns. -/
def readOperand
    (c : Cursor) : Except SyntaxFault (Tree × Cursor) :=
  (operand c).map Subtype.val

/- What `takeClosing` returns. -/
def readClosing
    (c : Cursor) : Except SyntaxFault Cursor :=
  (takeClosing c).map Subtype.val

------------------------------------------------------------
-- Advancing
------------------------------------------------------------

/- An operand takes a token at least. -/
theorem readOperand_advances
    {c c₁ : Cursor}
    {t : Tree}
    (h : readOperand c = .ok (t, c₁)) :
    c₁.rest.length < c.rest.length := by
  rcases map_eq_ok.mp h with ⟨r, _, hr⟩
  have hLength := r.2
  rw [hr] at hLength
  exact hLength

/- An expression takes a token at least. -/
theorem readExpression_advances
    {power : Nat}
    {c c₁ : Cursor}
    {t : Tree}
    (h : readExpression power c = .ok (t, c₁)) :
    c₁.rest.length < c.rest.length := by
  rcases map_eq_ok.mp h with ⟨r, _, hr⟩
  have hLength := r.2
  rw [hr] at hLength
  exact hLength

------------------------------------------------------------
-- Expressions
------------------------------------------------------------

/- An expression is an operand and what follows it. -/
theorem readExpression_eq
    (power : Nat)
    (c : Cursor) :
    readExpression power c =
      readOperand c >>= fun r => readClimb power r.1 r.2 := by
  unfold readExpression readOperand
  rw [expression]
  cases operand c with
  | error f => rfl
  | ok r =>
      rcases r with ⟨⟨left, c₁⟩, h₁⟩
      simp only [Except.map, bind, Except.bind, readClimb]
      cases climb power left c₁ with
      | error f => rfl
      | ok r => rfl

/- Reading stops before all but more tightly binding signs. -/
theorem readClimb_stop
    {power : Nat}
    {left : Tree}
    {c : Cursor}
    (hStop : ∀ o ∈ c.operator?, o.power ≤ power) :
    readClimb power left c = .ok (left, c) := by
  unfold readClimb
  rcases c with ⟨rest, nesting⟩
  cases rest with
  | nil =>
      rw [climb]
      rfl
  | cons token rest =>
      rcases token with ⟨lexeme, position⟩
      rw [climb]
      cases hOperator : lexeme.operator? with
      | none => rfl
      | some o =>
          have hPower : o.power ≤ power := hStop o hOperator
          simp only [hPower, if_true]
          rfl

/- A more tightly binding sign takes a right operand. -/
theorem readClimb_operator
    {power position nesting : Nat}
    {left : Tree}
    {o : Op}
    {rest : List Token}
    (hPower : power < o.power) :
    readClimb power left ⟨⟨.op o, position⟩ :: rest, nesting⟩ =
      readExpression o.power ⟨rest, nesting⟩ >>= fun r =>
        readClimb power (.bin o left r.1) r.2 := by
  have hNot : ¬ o.power ≤ power := Nat.not_le.mpr hPower
  unfold readExpression
  rw [readClimb, climb]
  simp only [Lexeme.operator?, hNot, if_false]
  cases expression o.power ⟨rest, nesting⟩ with
  | error f => rfl
  | ok r =>
      rcases r with ⟨⟨right, c₁⟩, h₁⟩
      simp only [Except.map, bind, Except.bind, readClimb]
      cases climb power (.bin o left right) c₁ with
      | error f => rfl
      | ok r => rfl

------------------------------------------------------------
-- Operands
------------------------------------------------------------

/- There is no operand at the end. -/
theorem readOperand_nil (nesting : Nat) :
    readOperand ⟨[], nesting⟩ = .error (.cutShort .operand) := by
  rw [readOperand, operand]
  rfl

/- A number is an operand, unless it is too long. -/
theorem readOperand_number
    (digits : List Char)
    (position nesting : Nat)
    (rest : List Token) :
    readOperand ⟨⟨.number digits, position⟩ :: rest, nesting⟩ =
      if digits.length ≤ Text.digitLimit then
        .ok (.num (Text.numeralValue digits), ⟨rest, nesting⟩)
      else .error (.longNumber digits position) := by
  rw [readOperand, operand]
  by_cases hShort : digits.length ≤ Text.digitLimit
  · simp only [hShort, if_true]
    rfl
  · simp only [hShort, if_false]
    rfl

/- A name is an operand. -/
theorem readOperand_name
    (letters : List Char)
    (position nesting : Nat)
    (rest : List Token) :
    readOperand ⟨⟨.name letters, position⟩ :: rest, nesting⟩ =
      .ok (.var (String.ofList letters), ⟨rest, nesting⟩) := by
  rw [readOperand, operand]
  rfl

/- A minus sign stays open while its operand is read. -/
theorem readOperand_minus
    (position nesting : Nat)
    (rest : List Token) :
    readOperand ⟨⟨.op .sub, position⟩ :: rest, nesting⟩ =
      if nesting < depthLimit then
        readOperand ⟨rest, nesting + 1⟩ >>= fun r =>
          .ok (.neg r.1, ⟨r.2.rest, r.2.nesting - 1⟩)
      else .error (.nested ⟨.op .sub, position⟩) := by
  rw [readOperand, operand]
  by_cases hNesting : nesting < depthLimit
  · simp only [hNesting, if_true, readOperand]
    cases operand ⟨rest, nesting + 1⟩ with
    | error f => rfl
    | ok r => rfl
  · simp only [hNesting, if_true, if_false]
    rfl

/- No other operator starts an operand. -/
theorem readOperand_operator
    {o : Op}
    (hOp : o ≠ .sub)
    (position nesting : Nat)
    (rest : List Token) :
    readOperand ⟨⟨.op o, position⟩ :: rest, nesting⟩ =
      .error (.noOperand ⟨.op o, position⟩) := by
  rw [readOperand, operand]
  simp only [hOp, if_false]
  rfl

/- A parenthesis stays open until it is closed. -/
theorem readOperand_opening
    (position nesting : Nat)
    (rest : List Token) :
    readOperand ⟨⟨.opening, position⟩ :: rest, nesting⟩ =
      if nesting < depthLimit then
        readExpression 0 ⟨rest, nesting + 1⟩ >>= fun r =>
          readClosing r.2 >>= fun c₁ =>
            .ok (r.1, ⟨c₁.rest, c₁.nesting - 1⟩)
      else .error (.nested ⟨.opening, position⟩) := by
  rw [readOperand, operand]
  by_cases hNesting : nesting < depthLimit
  · simp only [hNesting, if_true, readExpression]
    cases expression 0 ⟨rest, nesting + 1⟩ with
    | error f => rfl
    | ok r =>
        rcases r with ⟨⟨t, c₁⟩, h₁⟩
        simp only [Except.map, bind, Except.bind, readClosing]
        cases takeClosing c₁ with
        | error f => rfl
        | ok r => rfl
  · simp only [hNesting, if_false]
    rfl

/- A closing parenthesis starts no operand. -/
theorem readOperand_closing
    (position nesting : Nat)
    (rest : List Token) :
    readOperand ⟨⟨.closing, position⟩ :: rest, nesting⟩ =
      .error (.noOperand ⟨.closing, position⟩) := by
  rw [readOperand, operand]
  rfl

/- What is taken as a closing parenthesis is one. -/
theorem readClosing_eq_ok
    {c c₁ : Cursor}
    (h : readClosing c = .ok c₁) :
    ∃ position,
      c.rest = ⟨.closing, position⟩ :: c₁.rest ∧
        c₁.nesting = c.nesting := by
  rcases c with ⟨rest, nesting⟩
  unfold readClosing at h
  cases rest with
  | nil => cases h
  | cons token rest =>
      rcases token with ⟨lexeme, position⟩
      by_cases hLexeme : lexeme = .closing
      · subst hLexeme
        cases h
        exact ⟨position, rfl, rfl⟩
      · simp [takeClosing, hLexeme, Except.map] at h

------------------------------------------------------------
-- Whole Token Lists
------------------------------------------------------------

/- Tokens are read to their end. -/
theorem parseTokens_eq_ok
    {ts : List Token}
    {t : Tree} :
    parseTokens ts = .ok t ↔
      ∃ nesting, readExpression 0 ⟨ts, 0⟩ =
        .ok (t, ⟨[], nesting⟩) := by
  unfold parseTokens readExpression
  cases expression 0 ⟨ts, 0⟩ with
  | error f => simp [Except.map]
  | ok r =>
      rcases r with ⟨⟨u, rest, nesting⟩, h⟩
      cases rest with
      | nil => simp [Except.map]
      | cons token rest => simp [Except.map]

/- What stops the reading of tokens stops it as a whole. -/
theorem parseTokens_eq_error
    {ts : List Token}
    {f : SyntaxFault}
    (h : readExpression 0 ⟨ts, 0⟩ = .error f) :
    parseTokens ts = .error f := by
  unfold readExpression at h
  unfold parseTokens
  cases hExpression : expression 0 ⟨ts, 0⟩ with
  | error g =>
      rw [hExpression] at h
      cases h
      rfl
  | ok r =>
      rw [hExpression] at h
      cases h

/- Tokens are not read to their end, or a token is left. -/
theorem parseTokens_eq_error_cases
    {ts : List Token}
    {f : SyntaxFault}
    (h : parseTokens ts = .error f) :
    readExpression 0 ⟨ts, 0⟩ = .error f ∨
      ∃ t c token rest,
        readExpression 0 ⟨ts, 0⟩ = .ok (t, c) ∧
          c.rest = token :: rest ∧ f = .trailing token := by
  unfold parseTokens at h
  unfold readExpression
  cases hExpression : expression 0 ⟨ts, 0⟩ with
  | error g =>
      rw [hExpression] at h
      cases h
      exact .inl rfl
  | ok r =>
      rw [hExpression] at h
      rcases r with ⟨⟨t, rest, nesting⟩, hLength⟩
      cases rest with
      | nil => cases h
      | cons token rest =>
          cases h
          exact .inr ⟨t, _, token, rest, rfl, rfl, rfl⟩

end Termwise
