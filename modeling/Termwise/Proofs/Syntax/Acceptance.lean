import Termwise.Proofs.Syntax.Completeness
import Termwise.Proofs.Syntax.Soundness
import Termwise.Proofs.Syntax.Unambiguity
import Termwise.Proofs.Tree.Depth

/-
  A text is accepted exactly if the grammar derives its
  tokens within the limits, and the tree that is returned is
  the only one that they have.

  Main declarations:
    * `parseTokens_eq_ok_iff`
    * `parseTokens_eq_nested`
    * `parse_eq_ok_iff`
-/

namespace Termwise

------------------------------------------------------------
-- Token Lists
------------------------------------------------------------

/- Tokens are accepted as the tree that they spell. -/
theorem parseTokens_eq_ok_iff
    {ts : List Token}
    {t : Tree} :
    parseTokens ts = .ok t ↔ Spells .sum ts t 0 := by
  constructor
  · intro h
    rcases parseTokens_eq_ok.mp h with ⟨nesting, hRead⟩
    rcases readExpression_sound .sum hRead with
      ⟨us, hRest, _, hSpells, _⟩
    have hAll : ts = us := by
      rw [show ts = us ++ [] from hRest, List.append_nil]
    rw [hAll]
    exact hSpells
  · intro h
    rcases h.derives with ⟨n, hDerives, hLimit⟩
    have hFound := hDerives.findable ts [] 0 rfl h.short
      hLimit (fun o ho => by cases ho)
    have hRead := hFound.read (fun o ho => by cases ho)
    rw [List.append_nil] at hRead
    exact parseTokens_eq_ok.mpr ⟨0, hRead⟩

/- Tokens that open too many levels are refused for that. -/
theorem parseTokens_eq_nested
    {ts : List Token}
    {t : Tree}
    {n : Nat}
    (hShort : ∀ token ∈ ts, token.lexeme.Short)
    (hDerives : Derives .sum (ts.map Token.lexeme) t n)
    (hLimit : depthLimit < n) :
    ∃ token, parseTokens ts = .error (.nested token) := by
  have hStopped := hDerives.overflowing ts [] 0 rfl hShort
    (by omega)
  rcases hStopped.expression .sum (Nat.le_refl _) with
    ⟨token, hToken⟩
  rw [List.append_nil] at hToken
  exact ⟨token, parseTokens_eq_error hToken⟩

------------------------------------------------------------
-- Texts
------------------------------------------------------------

/- A text is cut, read and measured. -/
theorem parse_eq_bind (text : String) :
    parse text = tokens text >>= fun ts =>
      parseTokens ts >>= fun t =>
        if t.depth ≤ depthLimit then .ok t
        else .error .deep := by
  unfold parse
  cases tokens text with
  | error f => rfl
  | ok ts =>
      simp only [bind, Except.bind]
      cases parseTokens ts with
      | error f => rfl
      | ok t => simp only [t.levels_eq_depth]

/- A text is accepted if its tokens and its tree are. -/
theorem parse_eq_ok
    {text : String}
    {t : Tree} :
    parse text = .ok t ↔
      ∃ ts, tokens text = .ok ts ∧ parseTokens ts = .ok t ∧
        t.depth ≤ depthLimit := by
  rw [parse_eq_bind]
  constructor
  · intro h
    rcases bind_eq_ok.mp h with ⟨ts, hTokens, hRest⟩
    rcases bind_eq_ok.mp hRest with ⟨u, hParsed, hMeasured⟩
    by_cases hDepth : u.depth ≤ depthLimit
    · rw [if_pos hDepth] at hMeasured
      cases hMeasured
      exact ⟨ts, hTokens, hParsed, hDepth⟩
    · rw [if_neg hDepth] at hMeasured
      cases hMeasured
  · rintro ⟨ts, hTokens, hParsed, hDepth⟩
    rw [hTokens]
    show (parseTokens ts >>= _) = _
    rw [hParsed]
    exact if_pos hDepth

/-
  A text is accepted as a tree exactly if it has tokens, none
  of them too long a number, that the grammar derives as
  that tree with few enough signs and parentheses open at
  once, and the tree is not too deep.  The grammar, limits
  apart, derives one tree at most from the same lexemes.
-/
theorem parse_eq_ok_iff
    (text : String)
    (t : Tree) :
    (parse text = .ok t ↔
      ∃ ts n, tokens text = .ok ts ∧
        (∀ token ∈ ts, token.lexeme.Short) ∧
        Derives .sum (ts.map Token.lexeme) t n ∧
        n ≤ depthLimit ∧
        t.depth ≤ depthLimit) ∧
    ∀ (ls : List Lexeme) (u v : Tree) (m n : Nat),
      Derives .sum ls u m → Derives .sum ls v n → u = v := by
  refine ⟨?_, fun ls u v m n hLeft hRight =>
    hLeft.unique hRight⟩
  rw [parse_eq_ok]
  constructor
  · rintro ⟨ts, hTokens, hParsed, hDepth⟩
    have hSpells := parseTokens_eq_ok_iff.mp hParsed
    rcases hSpells.derives with ⟨n, hDerives, hLimit⟩
    exact ⟨ts, n, hTokens, hSpells.short, hDerives, hLimit,
      hDepth⟩
  · rintro ⟨ts, n, hTokens, hShort, hDerives, hLimit, hDepth⟩
    have hSpells : Spells .sum ts t 0 :=
      ⟨hShort, n, hDerives, hLimit⟩
    exact ⟨ts, hTokens, parseTokens_eq_ok_iff.mpr hSpells,
      hDepth⟩

end Termwise
