import Termwise.Proofs.Syntax.Precedence
import Termwise.Proofs.Syntax.Readers

/-
  What the readers return is what the grammar derives from
  the tokens that they have taken, and they leave as many
  signs and parentheses open as they found.

  Main declarations:
    * `readOperand_sound`
    * `readExpression_sound`
    * `readClimb_sound`
-/

namespace Termwise

mutual

/- An operand that was read is a primary. -/
theorem readOperand_sound
    {c c₁ : Cursor}
    {t : Tree}
    (h : readOperand c = .ok (t, c₁)) :
    ∃ ts, c.rest = ts ++ c₁.rest ∧
      c₁.nesting = c.nesting ∧
      Spells .primary ts t c.nesting := by
  rcases hCursor : c with ⟨rest, nesting⟩
  rw [hCursor] at h
  cases rest with
  | nil =>
      rw [readOperand_nil] at h
      cases h
  | cons token rest =>
      rcases token with ⟨lexeme, position⟩
      cases lexeme with
      | number digits =>
          rw [readOperand_number] at h
          by_cases hShort : digits.length ≤ Text.digitLimit
          · rw [if_pos hShort] at h
            cases h
            exact ⟨_, rfl, rfl, .number hShort _ _⟩
          · rw [if_neg hShort] at h
            cases h
      | name letters =>
          rw [readOperand_name] at h
          cases h
          exact ⟨_, rfl, rfl, .name letters _ _⟩
      | op o =>
          by_cases hOp : o = .sub
          · subst hOp
            rw [readOperand_minus] at h
            by_cases hNesting : nesting < depthLimit
            · rw [if_pos hNesting] at h
              rcases bind_eq_ok.mp h with
                ⟨⟨u, c₂⟩, hOperand, hNegated⟩
              cases hNegated
              rcases readOperand_sound hOperand with
                ⟨ts, hRest, hSame, hSpells⟩
              refine ⟨⟨.op .sub, position⟩ :: ts, ?_, ?_,
                hSpells.negation hNesting position⟩
              · exact congrArg (_ :: ·) hRest
              · simp only [hSame, Nat.add_sub_cancel]
            · rw [if_neg hNesting] at h
              cases h
          · rw [readOperand_operator hOp] at h
            cases h
      | opening =>
          rw [readOperand_opening] at h
          by_cases hNesting : nesting < depthLimit
          · rw [if_pos hNesting] at h
            rcases bind_eq_ok.mp h with
              ⟨⟨u, c₂⟩, hExpression, hClosed⟩
            rcases bind_eq_ok.mp hClosed with
              ⟨c₃, hClosing, hResult⟩
            cases hResult
            rcases readExpression_sound .sum hExpression with
              ⟨ts, hRest, hSame, hSpells, _⟩
            rcases readClosing_eq_ok hClosing with
              ⟨last, hLast, hKept⟩
            refine ⟨⟨.opening, position⟩ :: ts
              ++ [⟨.closing, last⟩], ?_, ?_,
              hSpells.parentheses hNesting position last⟩
            · rw [show rest = ts ++ c₂.rest from hRest, hLast]
              simp
            · simp only [hKept, hSame, Nat.add_sub_cancel]
          · rw [if_neg hNesting] at h
            cases h
      | closing =>
          rw [readOperand_closing] at h
          cases h
termination_by (c.rest.length, 0)
decreasing_by
  all_goals
    rw [hCursor]
    exact Prod.Lex.left _ _ (Nat.lt_succ_self _)

/-
  An expression that was read belongs to its level, and the
  next operator does not bind more tightly.
-/
theorem readExpression_sound
    (level : Level)
    {c c₁ : Cursor}
    {t : Tree}
    (h : readExpression level.power c = .ok (t, c₁)) :
    ∃ ts, c.rest = ts ++ c₁.rest ∧
      c₁.nesting = c.nesting ∧
      Spells level ts t c.nesting ∧
      ∀ o ∈ c₁.operator?, o.power ≤ level.power := by
  rw [readExpression_eq] at h
  rcases bind_eq_ok.mp h with ⟨⟨left, c₂⟩, hOperand, hClimb⟩
  have hShorter := readOperand_advances hOperand
  rcases readOperand_sound hOperand with
    ⟨us, hRest, hSame, hPrimary⟩
  have hAny : ∀ wide : Level,
      Spells wide us left c₂.nesting := by
    intro wide
    rw [hSame]
    exact hPrimary.widen (by cases wide <;> decide)
  rcases readClimb_sound hClimb (hAny level)
      (fun o _ _ => hAny o.level) with
    ⟨vs, hRest₂, hSame₂, hSpells, hStop⟩
  refine ⟨us ++ vs, ?_, ?_, ?_, hStop⟩
  · rw [hRest, hRest₂, List.append_assoc]
  · rw [hSame₂, hSame]
  · rw [← hSame]
    exact hSpells
termination_by (c.rest.length, 1)

/-
  Going on from a left operand gives a tree of the level, if
  the left operand belongs to the level and to that of the
  next operator that is taken.
-/
theorem readClimb_sound
    {level : Level}
    {left t : Tree}
    {c c₁ : Cursor}
    {us : List Token}
    (h : readClimb level.power left c = .ok (t, c₁))
    (hLeft : Spells level us left c.nesting)
    (hNext : ∀ o ∈ c.operator?, level.power < o.power →
      Spells o.level us left c.nesting) :
    ∃ ts, c.rest = ts ++ c₁.rest ∧
      c₁.nesting = c.nesting ∧
      Spells level (us ++ ts) t c.nesting ∧
      ∀ o ∈ c₁.operator?, o.power ≤ level.power := by
  by_cases hStop : ∀ o ∈ c.operator?, o.power ≤ level.power
  · rw [readClimb_stop hStop] at h
    cases h
    refine ⟨[], rfl, rfl, ?_, hStop⟩
    rw [List.append_nil]
    exact hLeft
  · rcases hCursor : c with ⟨rest, nesting⟩
    rw [hCursor] at h hLeft hNext hStop
    cases rest with
    | nil =>
        exact absurd (fun o ho => by cases ho) hStop
    | cons token rest =>
        rcases token with ⟨lexeme, position⟩
        cases lexeme with
        | op o =>
            have hPower : level.power < o.power := by
              refine Nat.not_le.mp fun hWeak => hStop ?_
              intro o' ho
              cases ho
              exact hWeak
            have hLevels := (level.power_lt_iff o).mp hPower
            rw [readClimb_operator hPower,
              ← o.rightLevel_power] at h
            rcases bind_eq_ok.mp h with
              ⟨⟨right, c₂⟩, hExpression, hClimb⟩
            have hShorter := readExpression_advances hExpression
            rcases readExpression_sound o.rightLevel
                hExpression with
              ⟨vs, hRest, hSame, hRight, hWeaker⟩
            have hBin :
                Spells o.level
                  (us ++ ⟨.op o, position⟩ :: vs)
                  (.bin o left right) c₂.nesting := by
              rw [hSame]
              exact (hNext o rfl hPower).operation hRight
            have hGo : ∀ o' ∈ c₂.operator?,
                level.power < o'.power →
                Spells o'.level
                  (us ++ ⟨.op o, position⟩ :: vs)
                  (.bin o left right) c₂.nesting := by
              intro o' ho _
              have hWeak := hWeaker o' ho
              have hFirst := o.level_power
              have hSecond := o'.level_power
              rw [o.rightLevel_power] at hWeak
              exact hBin.widen (by omega)
            rcases readClimb_sound hClimb
                (hBin.widen hLevels) hGo with
              ⟨ws, hRest₂, hSame₂, hSpells, hLast⟩
            refine ⟨⟨.op o, position⟩ :: vs ++ ws, ?_, ?_, ?_,
              hLast⟩
            · rw [show rest = vs ++ c₂.rest from hRest, hRest₂]
              simp
            · rw [hSame₂, hSame]
            · rw [hSame] at hSpells
              rw [← List.append_assoc]
              exact hSpells
        | number | name | opening | closing =>
            exact absurd (fun o ho => by cases ho) hStop
termination_by (c.rest.length, 0)

end

end Termwise
