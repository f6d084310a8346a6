import Termwise.Print.Infix
import Termwise.Tree.Variables
import Termwise.Proofs.Syntax.Precedence
import Termwise.Proofs.Syntax.Scanning
import Termwise.Proofs.Text.Numeral

/-
  The infix form of a tree is cut into the lexemes that the
  grammar derives the tree from.

  Key definitions include:
    * `IsWord`
    * `Tree.Lettered`
    * `Tree.infixLexemes`
    * `Tree.infixNesting`

  Main declarations:
    * `Tree.derives_infixLexemes`
    * `Tree.short_infixLexemes`
    * `Tree.cutsInto_infixChars`
-/

namespace Termwise

/- A text is a word of ASCII letters. -/
def IsWord (x : String) : Prop :=
  x.toList ≠ [] ∧ ∀ c ∈ x.toList, isLetter c = true

instance (x : String) : Decidable (IsWord x) :=
  decidable_of_iff
    (x.toList ≠ [] ∧ x.toList.all isLetter = true)
    (by rw [IsWord, List.all_eq_true])

/- A word has no other character. -/
theorem IsWord.notMem
    {x : String}
    {c : Char}
    (hWord : IsWord x)
    (h : isLetter c = false) :
    c ∉ x.toList := by
  intro hMem
  rw [hWord.2 c hMem] at h
  cases h

namespace Tree

/- Every variable of a tree is named by a word. -/
def Lettered (t : Tree) : Prop :=
  ∀ x ∈ t.names, IsWord x

instance (t : Tree) : Decidable t.Lettered := by
  unfold Lettered
  infer_instance

/- A variable is named by its name. -/
theorem lettered_var
    {x : String} :
    (var x).Lettered ↔ IsWord x :=
  List.forall_mem_singleton

/- The variables of an operation are those of its operands. -/
theorem lettered_bin
    {op : Op}
    {l r : Tree} :
    (bin op l r).Lettered ↔ l.Lettered ∧ r.Lettered :=
  List.forall_mem_append

/- The lexemes of the infix form. -/
def infixLexemes : Tree → List Lexeme
| num n => [.number (Text.numeral n)]
| var x => [.name x.toList]
| neg t =>
    .opening :: (.op .sub :: t.infixLexemes) ++ [.closing]
| bin op l r =>
    .opening :: (l.infixLexemes ++ .op op :: r.infixLexemes)
      ++ [.closing]

/-
  The most minus signs and parentheses that are open at once
  in the infix form.  A negation opens one of each.
-/
def infixNesting : Tree → Nat
| num _ => 0
| var _ => 0
| neg t => 2 + t.infixNesting
| bin _ l r => 1 + max l.infixNesting r.infixNesting

------------------------------------------------------------
-- Derivation
------------------------------------------------------------

/- The grammar derives a tree from its infix lexemes. -/
theorem derives_infixLexemes (t : Tree) :
    Derives .primary t.infixLexemes t t.infixNesting := by
  induction t with
  | num n =>
      have hNumber := Derives.number (Text.numeral n)
      rw [Text.numeralValue_numeral] at hNumber
      exact hNumber
  | var x =>
      have hName := Derives.name x.toList
      rw [String.ofList_toList] at hName
      exact hName
  | neg t ih =>
      have hSum := ih.negation.factor.term.parentheses
      rw [infixNesting, Nat.add_comm]
      exact hSum
  | bin op l r ihLeft ihRight =>
      have hLeft :
          Derives op.level l.infixLexemes l l.infixNesting :=
        ihLeft.widen (by cases op <;> decide)
      have hRight :
          Derives op.rightLevel r.infixLexemes r
            r.infixNesting :=
        ihRight.widen (by cases op <;> decide)
      have hSum :
          Derives .sum
            (l.infixLexemes ++ .op op :: r.infixLexemes)
            (bin op l r)
            (max l.infixNesting r.infixNesting) :=
        (hLeft.operation op hRight).widen (Nat.zero_le _)
      rw [infixNesting, Nat.add_comm]
      exact hSum.parentheses

/- A tree that can be written has no number too long to read. -/
theorem short_infixLexemes
    {t : Tree}
    (h : t.Writable) :
    ∀ l ∈ t.infixLexemes, l.Short := by
  induction t with
  | num n =>
      intro l hl
      rcases List.mem_singleton.mp hl with rfl
      exact Text.length_numeral_le_of_writable
        (writable_num.mp h)
  | var x =>
      intro l hl
      rcases List.mem_singleton.mp hl with rfl
      trivial
  | neg t ih =>
      intro l hl
      simp only [infixLexemes, List.cons_append,
        List.mem_cons, List.mem_append, List.not_mem_nil,
        or_false] at hl
      rcases hl with rfl | rfl | hInner | rfl
      · trivial
      · trivial
      · exact ih h l hInner
      · trivial
  | bin op l r ihLeft ihRight =>
      rcases writable_bin.mp h with ⟨hLeft, hRight⟩
      intro k hk
      simp only [infixLexemes, List.cons_append,
        List.mem_cons, List.mem_append, List.not_mem_nil,
        or_false] at hk
      rcases hk with rfl | (hInner | rfl | hInner) | rfl
      · trivial
      · exact ihLeft hLeft k hInner
      · trivial
      · exact ihRight hRight k hInner
      · trivial

------------------------------------------------------------
-- Tokens
------------------------------------------------------------

/- The infix form of a tree is cut into its lexemes. -/
theorem cutsInto_infixChars
    {t : Tree}
    (h : t.Lettered) :
    CutsInto t.infixChars t.infixLexemes := by
  have hEnd : CutsInto [')'] [.closing] := .symbol rfl .nil
  induction t with
  | num n =>
      exact .number (Text.numeral_ne_nil n)
        fun c hc => Text.isDigit_of_mem_numeral hc
  | var x =>
      have hWord := lettered_var.mp h
      exact .name hWord.1 hWord.2
  | neg t ih =>
      have hInner : CutsInto (t.infixChars ++ [')'])
          (t.infixLexemes ++ [.closing]) :=
        .before (by decide) (by decide) (ih h) hEnd
      exact .symbol rfl (.symbol rfl hInner)
  | bin op l r ihLeft ihRight =>
      rcases lettered_bin.mp h with ⟨hLeft, hRight⟩
      have hAfter : CutsInto (r.infixChars ++ [')'])
          (r.infixLexemes ++ [.closing]) :=
        .before (by decide) (by decide) (ihRight hRight) hEnd
      have hOperator := CutsInto.blank (c := ' ') (by decide)
        (.symbol (symbol?_sign op)
          (.blank (c := ' ') (by decide) hAfter))
      have hBoth := CutsInto.before (by decide) (by decide)
        (ihLeft hLeft) hOperator
      have hText : (bin op l r).infixChars =
          '(' :: (l.infixChars ++ ' ' :: op.sign :: ' '
            :: (r.infixChars ++ [')'])) := by
        simp [infixChars]
      have hLexemes : (bin op l r).infixLexemes =
          .opening :: (l.infixLexemes ++ .op op
            :: (r.infixLexemes ++ [.closing])) := by
        simp [infixLexemes]
      rw [hText, hLexemes]
      exact .symbol rfl hBoth

end Tree

end Termwise
