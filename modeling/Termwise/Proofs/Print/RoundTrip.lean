import Termwise.Proofs.Print.InfixForm
import Termwise.Proofs.Syntax.Acceptance

/-
  The infix form of a tree is read as that tree, up to the
  limits of what is read.

  Main declarations:
    * `CutsInto.parse_eq`
    * `Tree.parse_infix_of_nesting_le`
    * `Tree.parse_infix_of_lt_nesting`
    * `parse_toInfix`
-/

namespace Termwise

namespace SyntaxFault

/- A tree or a text has too many levels. -/
def TooDeep : SyntaxFault → Prop
| nested _ => True
| deep => True
| _ => False

/- The complaint about too many levels names the limit. -/
theorem tooDeep_eq :
    tooDeep = "Expression nested too deep (limit 150)" := by
  decide +kernel

/- Too many levels are complained about as such. -/
theorem TooDeep.message
    {f : SyntaxFault}
    (h : f.TooDeep) :
    ∃ place,
      f.message =
        "Expression nested too deep (limit 150)" ++ place := by
  rw [← tooDeep_eq]
  cases f with
  | nested token => exact ⟨atPosition token.position, rfl⟩
  | deep => exact ⟨"", (String.append_empty).symm⟩
  | strayCharacter | longNumber | cutShort | noOperand
  | unclosed | trailing => exact h.elim

end SyntaxFault

------------------------------------------------------------
-- Reading Infix Forms
------------------------------------------------------------

/- A tree that can be written has an infix form. -/
theorem Tree.toInfix_eq_ok
    {t : Tree}
    (h : t.Writable) :
    t.toInfix = .ok (String.ofList t.infixChars) :=
  if_pos h

/-
  A text whose lexemes make up a tree is read as that tree,
  unless it is too deep.
-/
theorem CutsInto.parse_eq
    {cs : List Char}
    {ls : List Lexeme}
    {t : Tree}
    {n : Nat}
    (hCuts : CutsInto cs ls)
    (hShort : ∀ l ∈ ls, l.Short)
    (hDerives : Derives .sum ls t n)
    (hNesting : n ≤ depthLimit) :
    parse (String.ofList cs) =
      if t.depth ≤ depthLimit then .ok t
      else .error .deep := by
  rcases hCuts.tokens_eq with ⟨ts, hTokens, rfl⟩
  have hSpells : Spells .sum ts t 0 :=
    ⟨fun token hToken => hShort _ (List.mem_map_of_mem hToken),
      n, hDerives, hNesting⟩
  rw [parse_eq_bind, hTokens]
  show (parseTokens ts >>= _) = _
  rw [parseTokens_eq_ok_iff.mpr hSpells]
  rfl

/-
  The infix form of a tree that opens few enough levels is
  read as that tree, unless the tree itself is too deep.
-/
theorem Tree.parse_infix_of_nesting_le
    (t : Tree)
    (hNames : t.Lettered)
    (hNumbers : t.Writable)
    (hNesting : t.infixNesting ≤ depthLimit) :
    parse (String.ofList t.infixChars) =
      if t.depth ≤ depthLimit then .ok t
      else .error .deep :=
  (cutsInto_infixChars hNames).parse_eq
    (short_infixLexemes hNumbers)
    t.derives_infixLexemes.factor.term hNesting

/-
  In the infix form of a tree that opens too many levels the
  reading stops where the first of these is opened.
-/
theorem Tree.parse_infix_of_lt_nesting
    (t : Tree)
    (hNames : t.Lettered)
    (hNumbers : t.Writable)
    (hNesting : depthLimit < t.infixNesting) :
    ∃ token, parse (String.ofList t.infixChars) =
      .error (.nested token) := by
  rcases (cutsInto_infixChars hNames).tokens_eq with
    ⟨ts, hTokens, hMap⟩
  have hDerives := t.derives_infixLexemes.factor.term
  have hShort := short_infixLexemes hNumbers
  rw [← hMap] at hDerives hShort
  rcases parseTokens_eq_nested
      (List.forall_mem_map.mp hShort) hDerives hNesting with
    ⟨token, hToken⟩
  refine ⟨token, ?_⟩
  rw [parse_eq_bind, hTokens]
  show (parseTokens ts >>= _) = _
  rw [hToken]
  rfl

/-
  A tree whose names are words and whose numbers can be
  written has an infix form.  The form is read as the tree
  if it opens few enough levels and the tree has few enough.
  Otherwise the reading fails, at a token that opens a level
  too many or else at the end, and for no other reason.
-/
theorem parse_toInfix
    (t : Tree)
    (hNames : t.Lettered)
    (hNumbers : t.Writable) :
    ∃ text, t.toInfix = .ok text ∧
      (t.infixNesting ≤ depthLimit → t.depth ≤ depthLimit →
        parse text = .ok t) ∧
      (t.infixNesting ≤ depthLimit → depthLimit < t.depth →
        parse text = .error .deep) ∧
      (depthLimit < t.infixNesting →
        ∃ token, parse text = .error (.nested token)) ∧
      ∀ f, parse text = .error f →
        f.TooDeep ∧
          ∃ place,
            f.message =
              "Expression nested too deep (limit 150)"
                ++ place := by
  have hFits := t.parse_infix_of_nesting_le hNames hNumbers
  have hOverflows :=
    t.parse_infix_of_lt_nesting hNames hNumbers
  refine ⟨_, t.toInfix_eq_ok hNumbers, ?_, ?_, hOverflows, ?_⟩
  · intro hNesting hDepth
    rw [hFits hNesting, if_pos hDepth]
  · intro hNesting hDepth
    rw [hFits hNesting, if_neg (Nat.not_le.mpr hDepth)]
  · intro f hError
    have hTooDeep : f.TooDeep := by
      by_cases hNesting : t.infixNesting ≤ depthLimit
      · rw [hFits hNesting] at hError
        by_cases hDepth : t.depth ≤ depthLimit
        · rw [if_pos hDepth] at hError
          cases hError
        · rw [if_neg hDepth] at hError
          cases hError
          trivial
      · rcases hOverflows (Nat.not_le.mp hNesting) with
          ⟨token, hToken⟩
        rw [hToken] at hError
        cases hError
        trivial
    exact ⟨hTooDeep, hTooDeep.message⟩

/-
  Fifty negated differences open one hundred and fifty
  levels, as many as there may be.
-/
theorem parse_toInfix_differences :
    let t := Nat.repeat
      (fun u => .neg (.bin .sub (.num 12) u)) 50 (.var "xy")
    t.Lettered ∧ t.Writable ∧
      ∃ text, t.toInfix = .ok text ∧ parse text = .ok t := by
  intro t
  have hNames : t.Lettered := by decide +kernel
  have hNumbers : t.Writable := by decide +kernel
  rcases parse_toInfix t hNames hNumbers with
    ⟨text, hText, hRead, _⟩
  have hNesting : t.infixNesting ≤ depthLimit := by
    decide +kernel
  have hDepth : t.depth ≤ depthLimit := by
    decide +kernel
  exact ⟨hNames, hNumbers, text, hText, hRead hNesting hDepth⟩

end Termwise
