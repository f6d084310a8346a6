import Termwise.Syntax.Tokens
import Termwise.Tree.Depth

/-
  This file defines how tokens are read as a tree.

  An expression is an operand followed by operators with
  their right operands.  It takes in every operator that
  binds more tightly than the operator on its left.  Minus
  signs in front and opening parentheses count as open
  while their operand is read, and only `depthLimit` of
  them may be open at once.

  Key definitions include:
    * `Cursor`
    * `takeClosing`
    * `expression`
    * `climb`
    * `operand`
    * `parseTokens`
    * `parse`
-/

namespace Termwise

------------------------------------------------------------
-- Cursors
------------------------------------------------------------

/-
  How far the reading has come: the tokens that are left,
  and how many signs and parentheses are open.
-/
structure Cursor where
  rest : List Token
  nesting : Nat
deriving DecidableEq, Repr

/- A tree that was read, and a cursor that has advanced. -/
abbrev Advance (c : Cursor) :=
  { r : Tree × Cursor // r.2.rest.length < c.rest.length }

/- A tree that was read, and a cursor that has not gone back. -/
abbrev Progress (c : Cursor) :=
  { r : Tree × Cursor // r.2.rest.length ≤ c.rest.length }

------------------------------------------------------------
-- Reading Expressions
------------------------------------------------------------

/- Take the parenthesis that closes what has been read. -/
def takeClosing
    (c : Cursor) :
    Except SyntaxFault
      { c₁ : Cursor // c₁.rest.length < c.rest.length } :=
  match c with
  | ⟨[], _⟩ => .error (.cutShort .closing)
  | ⟨t :: rest, nesting⟩ =>
      if t.lexeme = .closing then
        .ok ⟨⟨rest, nesting⟩, Nat.lt_succ_self _⟩
      else
        .error (.unclosed t)

mutual

/-
  Read an expression whose operators all bind more tightly
  than `power`.
-/
def expression
    (power : Nat)
    (c : Cursor) : Except SyntaxFault (Advance c) :=
  match operand c with
  | .error f => .error f
  | .ok ⟨(left, c₁), h₁⟩ =>
      match climb power left c₁ with
      | .error f => .error f
      | .ok ⟨r, h₂⟩ => .ok ⟨r, Nat.lt_of_le_of_lt h₂ h₁⟩
termination_by (c.rest.length, 1)

/-
  Go on from a left operand, for as long as operators follow
  that bind more tightly than `power`.
-/
def climb
    (power : Nat)
    (left : Tree)
    (c : Cursor) : Except SyntaxFault (Progress c) :=
  match c with
  | ⟨[], nesting⟩ =>
      .ok ⟨(left, ⟨[], nesting⟩), Nat.le_refl _⟩
  | ⟨⟨lexeme, position⟩ :: rest, nesting⟩ =>
      match lexeme.operator? with
      | none =>
          .ok ⟨(left, ⟨⟨lexeme, position⟩ :: rest, nesting⟩),
            Nat.le_refl _⟩
      | some o =>
          if o.power ≤ power then
            .ok ⟨(left, ⟨⟨lexeme, position⟩ :: rest, nesting⟩),
              Nat.le_refl _⟩
          else
            match expression o.power ⟨rest, nesting⟩ with
            | .error f => .error f
            | .ok ⟨(right, c₁), h₁⟩ =>
                match climb power (.bin o left right) c₁ with
                | .error f => .error f
                | .ok ⟨r, h₂⟩ =>
                    .ok ⟨r, Nat.le_of_lt (Nat.lt_succ_of_lt
                      (Nat.lt_of_le_of_lt h₂ h₁))⟩
termination_by (c.rest.length, 0)
decreasing_by
  · exact Prod.Lex.left _ _ (Nat.lt_succ_self _)
  · exact Prod.Lex.left _ _ (Nat.lt_succ_of_lt h₁)

/-
  Read an operand: a number, a variable, a negated operand,
  or an expression in parentheses.
-/
def operand
    (c : Cursor) : Except SyntaxFault (Advance c) :=
  match c with
  | ⟨[], _⟩ => .error (.cutShort .operand)
  | ⟨⟨lexeme, position⟩ :: rest, nesting⟩ =>
      match lexeme with
      | .number digits =>
          if digits.length ≤ Text.digitLimit then
            .ok ⟨(.num (Text.numeralValue digits),
              ⟨rest, nesting⟩), Nat.lt_succ_self _⟩
          else
            .error (.longNumber digits position)
      | .name letters =>
          .ok ⟨(.var (String.ofList letters),
            ⟨rest, nesting⟩), Nat.lt_succ_self _⟩
      | .op o =>
          if o = .sub then
            if nesting < depthLimit then
              match operand ⟨rest, nesting + 1⟩ with
              | .error f => .error f
              | .ok ⟨(t, c₁), h₁⟩ =>
                  .ok ⟨(.neg t, ⟨c₁.rest, c₁.nesting - 1⟩),
                    Nat.lt_succ_of_lt h₁⟩
            else
              .error (.nested ⟨.op o, position⟩)
          else
            .error (.noOperand ⟨.op o, position⟩)
      | .opening =>
          if nesting < depthLimit then
            match expression 0 ⟨rest, nesting + 1⟩ with
            | .error f => .error f
            | .ok ⟨(t, c₁), h₁⟩ =>
                match takeClosing c₁ with
                | .error f => .error f
                | .ok ⟨c₂, h₂⟩ =>
                    .ok ⟨(t, ⟨c₂.rest, c₂.nesting - 1⟩),
                      Nat.lt_succ_of_lt
                        (Nat.lt_trans h₂ h₁)⟩
          else
            .error (.nested ⟨.opening, position⟩)
      | .closing => .error (.noOperand ⟨.closing, position⟩)
termination_by (c.rest.length, 0)

end

------------------------------------------------------------
-- Reading Texts
------------------------------------------------------------

/- Read tokens that make up one expression. -/
def parseTokens
    (ts : List Token) : Except SyntaxFault Tree :=
  match expression 0 ⟨ts, 0⟩ with
  | .error f => .error f
  | .ok ⟨(t, c), _⟩ =>
      match c.rest with
      | [] => .ok t
      | found :: _ => .error (.trailing found)

/-
  Read the text of an expression.  Chains of operators grow
  deep without anything open, so the finished tree is
  measured as well.
-/
def parse (text : String) : Except SyntaxFault Tree :=
  match tokens text with
  | .error f => .error f
  | .ok ts =>
      match parseTokens ts with
      | .error f => .error f
      | .ok t =>
          if t.levels ≤ depthLimit then .ok t
          else .error .deep

end Termwise
