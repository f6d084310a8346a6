import Termwise.Proofs.Print.InfixForm
import Termwise.Proofs.Syntax.Unambiguity

/-
  Different trees have different infix forms, however deep
  they are.  A form may be too deep to be read, but it is
  still cut into lexemes, and the grammar, which knows no
  limits, derives one tree at most from these.

  Main declarations:
    * `Tree.infixLexemes_injective`
    * `Tree.infixChars_injective`
    * `Tree.toInfix_injective`
-/

namespace Termwise

namespace Tree

/- A tree is told by the lexemes of its infix form. -/
theorem infixLexemes_injective
    {t u : Tree}
    (h : t.infixLexemes = u.infixLexemes) :
    t = u := by
  have hFirst := t.derives_infixLexemes.factor.term
  have hSecond := u.derives_infixLexemes.factor.term
  rw [h] at hFirst
  exact hFirst.unique hSecond

/- With words for names it is told by the characters. -/
theorem infixChars_injective
    {t u : Tree}
    (hFirst : t.Lettered)
    (hSecond : u.Lettered)
    (h : t.infixChars = u.infixChars) :
    t = u := by
  have hCuts := cutsInto_infixChars hFirst
  rw [h] at hCuts
  exact infixLexemes_injective
    (hCuts.unique (cutsInto_infixChars hSecond))

/-
  Trees whose names are words and whose numbers can be
  written have infix forms, and the forms are the same only
  if the trees are.
-/
theorem toInfix_injective
    (t u : Tree)
    (hNames : t.Lettered)
    (hNumbers : t.Writable)
    (hNames₂ : u.Lettered)
    (hNumbers₂ : u.Writable) :
    ∃ form form₂ : String,
      t.toInfix = .ok form ∧ u.toInfix = .ok form₂ ∧
        (form = form₂ ↔ t = u) := by
  refine ⟨_, _, if_pos hNumbers, if_pos hNumbers₂, ?_⟩
  constructor
  · intro h
    exact infixChars_injective hNames hNames₂
      (String.ofList_injective h)
  · rintro rfl
    rfl

/-
  Two hundred levels are too many to be read, but a negated
  number below them is still told from a difference.
-/
theorem toInfix_injective_deep :
    let t := Nat.repeat neg 200 (neg (num 12))
    let u := Nat.repeat neg 200 (bin .sub (num 0) (num 12))
    t.Lettered ∧ t.Writable ∧ u.Lettered ∧ u.Writable ∧
      ∃ form form₂ : String,
        t.toInfix = .ok form ∧ u.toInfix = .ok form₂ ∧
          form ≠ form₂ := by
  intro t u
  have hNames : t.Lettered := by decide +kernel
  have hNumbers : t.Writable := by decide +kernel
  have hNames₂ : u.Lettered := by decide +kernel
  have hNumbers₂ : u.Writable := by decide +kernel
  have hTrees : t ≠ u := by decide +kernel
  rcases toInfix_injective t u hNames hNumbers hNames₂
      hNumbers₂ with
    ⟨form, form₂, hForm, hForm₂, hIff⟩
  exact ⟨hNames, hNumbers, hNames₂, hNumbers₂, form, form₂,
    hForm, hForm₂, mt hIff.mp hTrees⟩

end Tree

end Termwise
