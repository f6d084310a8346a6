import Termwise.Syntax.Parse

/-
  This file defines the readers of expressions once more, in
  steps that may have no result.

  These readers keep all the tokens and count how many of
  them are behind.  They write down which token they take
  each time, they stop if there is no token where they take
  one, and they stop if they are called more deeply than the
  number of turns that they were given.

  Key definitions include:
    * `Indexed.Stop`
    * `Indexed.Place`
    * `Indexed.expression`
    * `Indexed.climb`
    * `Indexed.operand`
-/

namespace Termwise

namespace Indexed

------------------------------------------------------------
-- Places
------------------------------------------------------------

/- Why a reader stops without a tree. -/
inductive Stop where
| fault : SyntaxFault → Stop
| noToken
| noTurns
deriving DecidableEq, Repr

/-
  How far the reading has come: the index of the next token,
  how many signs and parentheses are open, and the indices of
  the tokens that were taken, in that order.
-/
structure Place where
  index : Nat
  nesting : Nat
  taken : List Nat
deriving DecidableEq, Repr

namespace Place

variable (ts : List Token) (p : Place)

/- The next token. -/
def token? : Option Token :=
  ts[p.index]?

/- The operator that the next token is the sign of. -/
def operator? : Option Op :=
  match p.token? ts with
  | none => none
  | some token => token.lexeme.operator?

/- The place behind the next token. -/
def next : Place :=
  { p with
    index := p.index + 1
    taken := p.taken ++ [p.index] }

/- Take the next token. -/
def take : Except Stop (Token × Place) :=
  match p.token? ts with
  | none => .error .noToken
  | some token => .ok (token, p.next)

/- The same place with a sign or parenthesis more open. -/
def deeper : Place :=
  { p with nesting := p.nesting + 1 }

/- The same place with a sign or parenthesis less open. -/
def leave : Place :=
  { p with nesting := p.nesting - 1 }

/- Count a token as open, unless it is one too many. -/
def enter (token : Token) : Except Stop Place :=
  if depthLimit < p.nesting + 1 then
    .error (.fault (.nested token))
  else
    .ok p.deeper

/- Take the parenthesis that closes what has been read. -/
def close : Except Stop Place :=
  match p.token? ts with
  | none => .error (.fault (.cutShort .closing))
  | some token =>
      if token.lexeme = .closing then do
        let (_, p) ← p.take ts
        return p
      else
        .error (.fault (.unclosed token))

end Place

------------------------------------------------------------
-- Reading Expressions
------------------------------------------------------------

mutual

/-
  Read an expression whose operators all bind more tightly
  than `power`.
-/
def expression
    (ts : List Token) :
    Nat → Nat → Place → Except Stop (Tree × Place)
| 0, _, _ => .error .noTurns
| turns + 1, power, p => do
    let (left, p) ← operand ts turns p
    climb ts turns power left p

/-
  Go on from a left operand, for as long as operators follow
  that bind more tightly than `power`.
-/
def climb
    (ts : List Token) :
    Nat → Nat → Tree → Place → Except Stop (Tree × Place)
| 0, _, _, _ => .error .noTurns
| turns + 1, power, left, p =>
    match p.operator? ts with
    | none => .ok (left, p)
    | some o =>
        if o.power ≤ power then .ok (left, p)
        else do
          let (_, p) ← p.take ts
          let (right, p) ← expression ts turns o.power p
          climb ts turns power (.bin o left right) p

/-
  Read an operand: a number, a variable, a negated operand,
  or an expression in parentheses.
-/
def operand
    (ts : List Token) :
    Nat → Place → Except Stop (Tree × Place)
| 0, _ => .error .noTurns
| turns + 1, p =>
    match p.token? ts with
    | none => .error (.fault (.cutShort .operand))
    | some ⟨.number digits, position⟩ => do
        let (_, p) ← p.take ts
        if digits.length ≤ Text.digitLimit then
          return (.num (Text.numeralValue digits), p)
        else
          .error (.fault (.longNumber digits position))
    | some ⟨.name letters, _⟩ => do
        let (_, p) ← p.take ts
        return (.var (String.ofList letters), p)
    | some ⟨.op o, position⟩ =>
        if o = .sub then do
          let (token, p) ← p.take ts
          let p ← p.enter token
          let (t, p) ← operand ts turns p
          return (.neg t, p.leave)
        else
          .error (.fault (.noOperand ⟨.op o, position⟩))
    | some ⟨.opening, _⟩ => do
        let (token, p) ← p.take ts
        let p ← p.enter token
        let (t, p) ← expression ts turns 0 p
        let p ← p.leave.close ts
        return (t, p)
    | some ⟨.closing, position⟩ =>
        .error (.fault (.noOperand ⟨.closing, position⟩))

end

end Indexed

end Termwise
