import Termwise.Proofs.Print.RoundTrip

/-
  The infix form of a tree is also read without the outermost
  parentheses, and any infix form is short of levels to open
  if its tree is half as deep as a tree may be.

  Key definitions include:
    * `Tree.bareChars`
    * `Tree.bareLexemes`

  Main declarations:
    * `Tree.infixNesting_le`
    * `Tree.parse_infix`
    * `Tree.parse_bare`
-/

namespace Termwise

namespace Tree

/- The infix form without the outermost parentheses. -/
def bareChars : Tree → List Char
| neg t => '-' :: t.infixChars
| bin op l r =>
    l.infixChars ++ ' ' :: op.sign :: ' ' :: r.infixChars
| t => t.infixChars

/- The lexemes of the form. -/
def bareLexemes : Tree → List Lexeme
| neg t => .op .sub :: t.infixLexemes
| bin op l r => l.infixLexemes ++ .op op :: r.infixLexemes
| t => t.infixLexemes

/- The form without parentheses is cut into its lexemes. -/
theorem cutsInto_bareChars
    {t : Tree}
    (h : t.Lettered) :
    CutsInto t.bareChars t.bareLexemes := by
  cases t with
  | num | var => exact cutsInto_infixChars h
  | neg t => exact .symbol rfl (cutsInto_infixChars h)
  | bin op l r =>
      rcases lettered_bin.mp h with ⟨hLeft, hRight⟩
      have hOperator := CutsInto.blank (c := ' ') (by decide)
        (.symbol (symbol?_sign op)
          (.blank (c := ' ') (by decide)
            (cutsInto_infixChars hRight)))
      exact .before (by decide) (by decide)
        (cutsInto_infixChars hLeft) hOperator

/-
  The grammar derives the tree from them, with no more levels
  open than in the infix form.
-/
theorem derives_bareLexemes (t : Tree) :
    ∃ n, Derives .sum t.bareLexemes t n ∧
      n ≤ t.infixNesting := by
  have hInfix := t.derives_infixLexemes.factor.term
  cases t with
  | num | var => exact ⟨_, hInfix, Nat.le_refl _⟩
  | neg t =>
      refine ⟨_, t.derives_infixLexemes.negation.factor.term,
        ?_⟩
      rw [infixNesting]
      omega
  | bin op l r =>
      have hLeft :
          Derives op.level l.infixLexemes l l.infixNesting :=
        l.derives_infixLexemes.widen (by cases op <;> decide)
      have hRight :
          Derives op.rightLevel r.infixLexemes r
            r.infixNesting :=
        r.derives_infixLexemes.widen (by cases op <;> decide)
      refine ⟨_, (hLeft.operation op hRight).widen
        (Nat.zero_le _), ?_⟩
      rw [infixNesting]
      omega

/- All these lexemes belong to the infix form. -/
theorem bareLexemes_subset (t : Tree) :
    t.bareLexemes ⊆ t.infixLexemes := by
  cases t with
  | num | var => exact List.Subset.refl _
  | neg t =>
      intro l hl
      exact List.mem_cons_of_mem _ (List.mem_append_left _ hl)
  | bin op l r =>
      intro k hk
      exact List.mem_cons_of_mem _ (List.mem_append_left _ hk)

/- A level of a tree costs two levels of the infix form. -/
theorem infixNesting_le (t : Tree) :
    t.infixNesting + 2 ≤ 2 * t.depth := by
  induction t with
  | num | var => exact Nat.le_refl 2
  | neg t ih =>
      rw [infixNesting, depth]
      omega
  | bin op l r ihLeft ihRight =>
      rw [infixNesting, depth]
      omega

section Reading

variable {t : Tree}

variable (hNames : t.Lettered) (hNumbers : t.Writable)

variable (hDepth : 2 * t.depth ≤ depthLimit + 2)

include hNames hNumbers hDepth

/- The infix form of a tree that is not too deep is read. -/
theorem parse_infix :
    parse (String.ofList t.infixChars) = .ok t := by
  have hNesting := t.infixNesting_le
  have hPositive := t.depth_pos
  have hLimit : 2 ≤ depthLimit := by decide
  rw [t.parse_infix_of_nesting_le hNames hNumbers (by omega),
    if_pos (by omega)]

/- So is the form without the outermost parentheses. -/
theorem parse_bare :
    parse (String.ofList t.bareChars) = .ok t := by
  have hNesting := t.infixNesting_le
  have hLimit : 2 ≤ depthLimit := by decide
  have hShort : ∀ l ∈ t.bareLexemes, l.Short := fun l hl =>
    short_infixLexemes hNumbers l (t.bareLexemes_subset hl)
  rcases t.derives_bareLexemes with ⟨n, hDerives, hOpen⟩
  rw [(cutsInto_bareChars hNames).parse_eq hShort hDerives
    (by omega), if_pos (by omega)]

end Reading

end Tree

end Termwise
