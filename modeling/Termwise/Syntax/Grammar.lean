import Termwise.Syntax.Token

/-
  This file defines the grammar of expressions on three
  levels, apart from how they are read:

    * a sum is products with `+` and `-` between them;
    * a product is primaries with `*` and `/` between them;
    * a primary is a number, a variable, a primary after a
      minus sign, or a sum in parentheses.

  Operators of one level group to the left.

  Key definitions include:
    * `Level`
    * `Derives`
    * `Grammatical`
    * `Extendable`
-/

namespace Termwise

/- The levels of the grammar. -/
inductive Level where
| primary
| product
| sum
deriving DecidableEq, Repr

/-
  Lexemes make up a tree on a level, and the number is the
  most minus signs in front and parentheses that are open at
  once.
-/
inductive Derives :
    Level → List Lexeme → Tree → Nat → Prop where
| number (digits : List Char) :
    Derives .primary [.number digits]
      (.num (Text.numeralValue digits)) 0
| name (letters : List Char) :
    Derives .primary [.name letters]
      (.var (String.ofList letters)) 0
| negation
    {ls : List Lexeme}
    {t : Tree}
    {n : Nat} :
    Derives .primary ls t n →
    Derives .primary (.op .sub :: ls) (.neg t) (n + 1)
| parentheses
    {ls : List Lexeme}
    {t : Tree}
    {n : Nat} :
    Derives .sum ls t n →
    Derives .primary (.opening :: ls ++ [.closing]) t (n + 1)
| factor
    {ls : List Lexeme}
    {t : Tree}
    {n : Nat} :
    Derives .primary ls t n →
    Derives .product ls t n
| times
    {ls ks : List Lexeme}
    {t u : Tree}
    {m n : Nat}
    (o : Op)
    (hOp : o = .mul ∨ o = .div) :
    Derives .product ls t m →
    Derives .primary ks u n →
    Derives .product (ls ++ .op o :: ks) (.bin o t u) (max m n)
| term
    {ls : List Lexeme}
    {t : Tree}
    {n : Nat} :
    Derives .product ls t n →
    Derives .sum ls t n
| plus
    {ls ks : List Lexeme}
    {t u : Tree}
    {m n : Nat}
    (o : Op)
    (hOp : o = .add ∨ o = .sub) :
    Derives .sum ls t m →
    Derives .product ks u n →
    Derives .sum (ls ++ .op o :: ks) (.bin o t u) (max m n)

/- Lexemes make up an expression. -/
def Grammatical (ls : List Lexeme) : Prop :=
  ∃ t n, Derives .sum ls t n

/- Lexemes are the start of an expression. -/
def Extendable (ls : List Lexeme) : Prop :=
  ∃ rest, Grammatical (ls ++ rest)

end Termwise
