import Termwise.Proofs.Syntax.Openings
import Termwise.Proofs.Syntax.Soundness
import Termwise.Proofs.Syntax.Viability

/-
  The readers blame a token with which the tokens are no
  longer the start of an expression, or of one within the
  limits.

  The readers are followed by the reading with a stack.  It
  gets as far as they do, has as much open as they count,
  and is stopped by the token that they blame.

  Key definitions include:
    * `SyntaxFault.Blames`

  Main declarations:
    * `SyntaxFault.Blames.after`
    * `readOperand_blames`
    * `readExpression_blames`
    * `readClimb_blames`
    * `parseTokens_blames`
-/

namespace Termwise

------------------------------------------------------------
-- What a Fault Says
------------------------------------------------------------

/-
  A fault says truly what stops a reading of tokens from a
  stage: a token that cannot come next; or the end, where
  something is still to come; or a token that opens one
  level more than allowed, the first to do so.
-/
def SyntaxFault.Blames
    (s : Stage)
    (ts : List Token) : SyntaxFault → Prop
| noOperand token | unclosed token | trailing token =>
    ∃ before after s₁, ts = before ++ token :: after ∧
      s.run (before.map Token.lexeme) = some s₁ ∧
      s₁.next token.lexeme = none
| cutShort _ =>
    ∃ s₁, s.run (ts.map Token.lexeme) = some s₁ ∧
      ∀ sum product, s₁ ≠ .complete sum product []
| nested token =>
    ∃ before after s₁, ts = before ++ token :: after ∧
      s.run ((before ++ [token]).map Token.lexeme) =
        some s₁ ∧
      s.opened.Within depthLimit (before.map Token.lexeme) ∧
      s₁.opened.count = depthLimit + 1
| strayCharacter _ _ | longNumber _ _ | deep => False

namespace SyntaxFault

/-
  What is true of a fault from a stage on is true from the
  stages before it, if no limit is exceeded on the way.
-/
theorem Blames.after
    {f : SyntaxFault}
    {s s₁ : Stage}
    {us ts : List Token}
    (h : f.Blames s₁ ts)
    (hRun : s.run (us.map Token.lexeme) = some s₁)
    (hWithin :
      s.opened.Within depthLimit (us.map Token.lexeme)) :
    f.Blames s (us ++ ts) := by
  have hRunOn : ∀ ls : List Lexeme,
      s.run (us.map Token.lexeme ++ ls) = s₁.run ls := by
    intro ls
    rw [Stage.run_append, hRun]
    rfl
  cases f with
  | noOperand token | unclosed token | trailing token =>
      rcases h with ⟨before, after, s₂, rfl, hBefore, hNext⟩
      refine ⟨us ++ before, after, s₂, ?_, ?_, hNext⟩
      · rw [List.append_assoc]
      · rw [List.map_append, hRunOn, hBefore]
  | cutShort e =>
      rcases h with ⟨s₂, hAll, hFinal⟩
      refine ⟨s₂, ?_, hFinal⟩
      rw [List.map_append, hRunOn, hAll]
  | nested token =>
      rcases h with
        ⟨before, after, s₂, rfl, hThrough, hInside, hCount⟩
      refine ⟨us ++ before, after, s₂, ?_, ?_, ?_, hCount⟩
      · rw [List.append_assoc]
      · rw [List.append_assoc, List.map_append, hRunOn,
          hThrough]
      · rw [List.map_append, Opened.within_append,
          ← Stage.opened_run hRun]
        exact ⟨hWithin, hInside⟩
  | strayCharacter | longNumber | deep => exact h.elim

/- What is true behind a token is true in front of it. -/
theorem Blames.cons
    {f : SyntaxFault}
    {s s₁ : Stage}
    {token : Token}
    {ts : List Token}
    (h : f.Blames s₁ ts)
    (hNext : s.next token.lexeme = some s₁)
    (hCount : s.opened.count ≤ depthLimit)
    (hCount₁ : s₁.opened.count ≤ depthLimit) :
    f.Blames s (token :: ts) := by
  have hRun :
      s.run ([token].map Token.lexeme) = some s₁ := by
    show (s.next token.lexeme).bind _ = _
    rw [hNext]
    rfl
  have hWithin :
      s.opened.Within depthLimit
        ([token].map Token.lexeme) := by
    refine Opened.within_singleton.mpr ⟨hCount, ?_⟩
    rw [← Stage.opened_next hNext]
    exact hCount₁
  exact @after f s s₁ [token] ts h hRun hWithin

/- A token that cannot come next is blamed truly. -/
theorem blames_noOperand
    {s : Stage}
    {token : Token}
    (hNext : s.next token.lexeme = none)
    (rest : List Token) :
    (noOperand token).Blames s (token :: rest) :=
  ⟨[], rest, s, rfl, rfl, hNext⟩

/- A token that opens a level too many is blamed truly. -/
theorem blames_nested
    {s s₁ : Stage}
    {token : Token}
    (hNext : s.next token.lexeme = some s₁)
    (hCount : s.opened.count = depthLimit)
    (hOver : s₁.opened.count = depthLimit + 1)
    (rest : List Token) :
    (nested token).Blames s (token :: rest) := by
  refine ⟨[], rest, s₁, rfl, ?_, ?_, hOver⟩
  · show (s.next token.lexeme).bind _ = _
    rw [hNext]
    rfl
  · exact Opened.within_nil.mpr (Nat.le_of_eq hCount)

end SyntaxFault

------------------------------------------------------------
-- Stages Behind What Was Read
------------------------------------------------------------

/-
  A token that opens a level is refused if the level is one
  too many; else what follows it is read.
-/
theorem blames_of_opens
    {α : Type}
    {s s₁ : Stage}
    {token : Token}
    {rest : List Token}
    {nesting : Nat}
    {inner : Except SyntaxFault α}
    {f : SyntaxFault}
    (h : (if nesting < depthLimit then inner
      else .error (.nested token)) = .error f)
    (hNext : s.next token.lexeme = some s₁)
    (hCount : s.opened.count = nesting)
    (hOpens : s₁.opened.count = nesting + 1)
    (hLimit : nesting ≤ depthLimit)
    (hInner : nesting < depthLimit → inner = .error f →
      f.Blames s₁ rest) :
    f.Blames s (token :: rest) := by
  by_cases hNesting : nesting < depthLimit
  · rw [if_pos hNesting] at h
    exact (hInner hNesting h).cons hNext (by omega) (by omega)
  · rw [if_neg hNesting] at h
    cases h
    have hFull : nesting = depthLimit :=
      Nat.le_antisymm hLimit (Nat.not_lt.mp hNesting)
    rw [hFull] at hCount hOpens
    exact SyntaxFault.blames_nested hNext hCount hOpens rest

/- What is spelled within the limits stays within them. -/
theorem Spells.within
    {level : Level}
    {ts : List Token}
    {t : Tree}
    {nesting : Nat}
    (h : Spells level ts t nesting)
    {o : Opened}
    (hDue : o.isDue = true)
    (hCount : o.count = nesting)
    (hLimit : nesting ≤ depthLimit) :
    o.Within depthLimit (ts.map Token.lexeme) := by
  rcases h.derives with ⟨n, hDerives, hFits⟩
  exact hDerives.within hDue (by omega)

/- An operand completes a product. -/
theorem Spells.run_operand
    {ts : List Token}
    {t : Tree}
    {nesting : Nat}
    (h : Spells .primary ts t nesting)
    (f : Front)
    (outer : List Front) :
    (Stage.due f outer).run (ts.map Token.lexeme) =
      some (.complete f.sum (f.complete t) outer) := by
  rcases h.derives with ⟨n, hDerives, _⟩
  exact hDerives.passes f outer

/- What stands in parentheses is complete before they close. -/
theorem Spells.run_sum
    {ts : List Token}
    {t : Tree}
    {nesting : Nat}
    (h : Spells .sum ts t nesting)
    (outer : List Front) :
    ∃ sum product,
      (Stage.due .empty outer).run (ts.map Token.lexeme) =
        some (.complete sum product outer) := by
  rcases h.derives with ⟨n, hDerives, _⟩
  rcases hDerives.passes outer with ⟨sum, product, hRun, _⟩
  exact ⟨sum, product, hRun⟩

/-
  Behind a complete product an operator makes an operand due,
  and its right operand leads to a complete product again.
-/
theorem exists_next_operator
    (o : Op)
    (sum : Option (Tree × Op))
    (product : Tree)
    (outer : List Front) :
    ∃ f : Front,
      (Stage.complete sum product outer).next (.op o) =
          some (.due f outer) ∧
        f.minuses = 0 ∧
        ∀ {ts : List Token} {t : Tree} {nesting : Nat},
          Spells o.rightLevel ts t nesting →
          ∃ sum₁ product₁,
            (Stage.due f outer).run (ts.map Token.lexeme) =
              some (.complete sum₁ product₁ outer) := by
  cases o with
  | mul | div =>
      refine ⟨_, rfl, rfl, ?_⟩
      intro ts t nesting hSpells
      exact ⟨_, _, hSpells.run_operand _ outer⟩
  | add | sub =>
      refine ⟨_, rfl, rfl, ?_⟩
      intro ts t nesting hSpells
      rcases hSpells.derives with ⟨n, hDerives, _⟩
      exact ⟨_, _, hDerives.passes (some (_, _)) outer⟩

------------------------------------------------------------
-- Closing
------------------------------------------------------------

/- A sum stops before no operator at all. -/
theorem operator?_eq_none
    {c : Cursor}
    {token : Token}
    {rest : List Token}
    (hRest : c.rest = token :: rest)
    (hStop : ∀ o ∈ c.operator?, o.power ≤ Level.sum.power) :
    token.lexeme.operator? = none := by
  rw [Cursor.operator?, hRest] at hStop
  rw [Option.eq_none_iff_forall_not_mem]
  intro o ho
  have hWeak := hStop o ho
  cases o <;> exact absurd hWeak (by decide)

/- What goes on with an expression is an operator. -/
theorem exists_operator
    {c : Cursor}
    {power : Nat}
    (h : ¬ ∀ o ∈ c.operator?, o.power ≤ power) :
    ∃ o position rest,
      c.rest = ⟨.op o, position⟩ :: rest ∧ power < o.power := by
  rcases Classical.not_forall.mp h with ⟨o, hNot⟩
  rcases Classical.not_imp.mp hNot with ⟨ho, hStrong⟩
  have hPower := Nat.not_le.mp hStrong
  rcases c with ⟨rest, nesting⟩
  cases rest with
  | nil => cases ho
  | cons token rest =>
      rcases token with ⟨lexeme, position⟩
      cases lexeme with
      | op o' =>
          cases ho
          exact ⟨o, position, rest, rfl, hPower⟩
      | number | name | opening | closing => cases ho

/-
  Behind an expression neither a sign nor the parenthesis
  that closes it comes; what comes instead cannot.
-/
theorem next_complete_eq_none
    {token : Token}
    (hOperator : token.lexeme.operator? = none)
    (hClosing : token.lexeme ≠ .closing)
    (sum : Option (Tree × Op))
    (product : Tree)
    (outer : List Front) :
    (Stage.complete sum product outer).next token.lexeme =
      none := by
  cases hLexeme : token.lexeme with
  | number | name | opening => rfl
  | op o =>
      rw [hLexeme] at hOperator
      cases hOperator
  | closing => exact absurd hLexeme hClosing

/-
  Behind an expression that is not in parentheses nothing
  comes but a sign.
-/
theorem next_complete_start_eq_none
    {token : Token}
    (hOperator : token.lexeme.operator? = none)
    (sum : Option (Tree × Op))
    (product : Tree) :
    (Stage.complete sum product []).next token.lexeme =
      none := by
  by_cases hClosing : token.lexeme = .closing
  · rw [hClosing]
    rfl
  · exact next_complete_eq_none hOperator hClosing _ _ _

/- Only an end or another token is taken for no closing. -/
theorem readClosing_eq_error
    {c : Cursor}
    {f : SyntaxFault}
    (h : readClosing c = .error f) :
    (c.rest = [] ∧ f = .cutShort .closing) ∨
      ∃ token rest, c.rest = token :: rest ∧
        token.lexeme ≠ .closing ∧ f = .unclosed token := by
  rcases c with ⟨rest, nesting⟩
  unfold readClosing at h
  cases rest with
  | nil =>
      cases h
      exact .inl ⟨rfl, rfl⟩
  | cons token rest =>
      by_cases hLexeme : token.lexeme = .closing
      · simp [takeClosing, hLexeme, Except.map] at h
      · simp only [takeClosing, hLexeme, if_false,
          Except.map] at h
        cases h
        exact .inr ⟨token, rest, rfl, hLexeme, rfl⟩

/- A fault of closing a parenthesis is a true one. -/
theorem readClosing_blames
    {c : Cursor}
    {f : SyntaxFault}
    (h : readClosing c = .error f)
    (hStop : ∀ o ∈ c.operator?, o.power ≤ Level.sum.power)
    {sum : Option (Tree × Op)}
    {product : Tree}
    {front : Front}
    {outer : List Front} :
    f.Blames (.complete sum product (front :: outer))
      c.rest := by
  rcases readClosing_eq_error h with
    ⟨hEnd, rfl⟩ | ⟨token, rest, hRest, hClosing, rfl⟩
  · rw [hEnd]
    exact ⟨_, rfl, fun _ _ hSame => by cases hSame⟩
  · have hOperator := operator?_eq_none hRest hStop
    rw [hRest]
    exact ⟨[], rest, _, rfl, rfl,
      next_complete_eq_none hOperator hClosing _ _ _⟩

------------------------------------------------------------
-- Readers
------------------------------------------------------------

mutual

/- A fault of reading an operand is a true one. -/
theorem readOperand_blames
    {c : Cursor}
    {f : SyntaxFault}
    (h : readOperand c = .error f)
    (hShort : ∀ token ∈ c.rest, token.lexeme.Short)
    {front : Front}
    {outer : List Front}
    (hCount : (Stage.due front outer).opened.count = c.nesting)
    (hLimit : c.nesting ≤ depthLimit) :
    f.Blames (.due front outer) c.rest := by
  rcases hCursor : c with ⟨rest, nesting⟩
  rw [hCursor] at h hShort hCount hLimit
  change _ = nesting at hCount
  change nesting ≤ depthLimit at hLimit
  cases rest with
  | nil =>
      rw [readOperand_nil] at h
      cases h
      exact ⟨_, rfl, fun _ _ hSame => by cases hSame⟩
  | cons token rest =>
      rcases token with ⟨lexeme, position⟩
      rcases List.forall_mem_cons.mp hShort with
        ⟨hFirst, hShortRest⟩
      cases lexeme with
      | number digits =>
          rw [readOperand_number, if_pos (by exact hFirst)] at h
          cases h
      | name letters =>
          rw [readOperand_name] at h
          cases h
      | closing =>
          rw [readOperand_closing] at h
          cases h
          exact SyntaxFault.blames_noOperand rfl rest
      | op o =>
          by_cases hOp : o = .sub
          · subst hOp
            rw [readOperand_minus] at h
            have hOpens :
                (Stage.due ⟨front.sum, front.product,
                  front.minuses + 1⟩ outer).opened.count =
                  nesting + 1 := by
              rw [← hCount]
              simp only [Stage.opened, Opened.count]
              omega
            refine blames_of_opens h rfl hCount hOpens hLimit ?_
            intro hNesting hFault
            rcases bind_eq_error.mp hFault with
              hOperand | ⟨r, _, hResult⟩
            · exact readOperand_blames hOperand hShortRest
                hOpens hNesting
            · cases hResult
          · rw [readOperand_operator hOp] at h
            cases h
            refine SyntaxFault.blames_noOperand ?_ rest
            cases o with
            | sub => exact absurd rfl hOp
            | add | mul | div => rfl
      | opening =>
          rw [readOperand_opening] at h
          have hOpens :
              (Stage.due .empty (front :: outer)).opened.count =
                nesting + 1 := by
            rw [← hCount]
            simp only [Stage.opened, Opened.count, Front.empty,
              List.map_cons, List.sum_cons]
            omega
          refine blames_of_opens h rfl hCount hOpens hLimit ?_
          intro hNesting hFault
          rcases bind_eq_error.mp hFault with
            hExpression | ⟨⟨t, c₁⟩, hExpression, hClosed⟩
          · exact readExpression_blames .sum hExpression
              hShortRest rfl hOpens hNesting
          · rcases readExpression_sound .sum hExpression with
              ⟨ts, hRest, _, hSpells, hStop⟩
            rcases hSpells.run_sum (front :: outer) with
              ⟨sum, product, hRun⟩
            have hWithin := hSpells.within
              (o := (Stage.due .empty (front :: outer)).opened)
              rfl hOpens hNesting
            rcases bind_eq_error.mp hClosed with
              hClosing | ⟨c₂, _, hResult⟩
            · rw [show rest = ts ++ c₁.rest from hRest]
              refine SyntaxFault.Blames.after ?_ hRun hWithin
              exact readClosing_blames hClosing hStop
            · cases hResult
termination_by (c.rest.length, 0)
decreasing_by
  all_goals
    rw [hCursor]
    exact Prod.Lex.left _ _ (Nat.lt_succ_self _)

/- A fault of reading an expression is a true one. -/
theorem readExpression_blames
    (level : Level)
    {c : Cursor}
    {f : SyntaxFault}
    (h : readExpression level.power c = .error f)
    (hShort : ∀ token ∈ c.rest, token.lexeme.Short)
    {front : Front}
    {outer : List Front}
    (hSigns : front.minuses = 0)
    (hCount : (Stage.due front outer).opened.count = c.nesting)
    (hLimit : c.nesting ≤ depthLimit) :
    f.Blames (.due front outer) c.rest := by
  rw [readExpression_eq] at h
  rcases bind_eq_error.mp h with
    hOperand | ⟨⟨left, c₁⟩, hOperand, hClimb⟩
  · exact readOperand_blames hOperand hShort hCount hLimit
  · have hShorter := readOperand_advances hOperand
    rcases readOperand_sound hOperand with
      ⟨us, hRest, hSame, hSpells⟩
    have hShortRest : ∀ token ∈ c₁.rest, token.lexeme.Short := by
      intro token hMem
      refine hShort token ?_
      rw [hRest]
      exact List.mem_append_right us hMem
    have hCount₁ :
        (Stage.complete front.sum (front.complete left)
          outer).opened.count = c₁.nesting := by
      rw [hSame, ← hCount]
      simp only [Stage.opened, Opened.count, hSigns]
    have hWithin :=
      hSpells.within (o := (Stage.due front outer).opened) rfl
        hCount hLimit
    rw [hRest]
    refine SyntaxFault.Blames.after ?_
      (hSpells.run_operand front outer) hWithin
    refine readClimb_blames hClimb hShortRest hCount₁ ?_
    rw [hSame]
    exact hLimit
termination_by (c.rest.length, 1)

/- A fault of going on from an operand is a true one. -/
theorem readClimb_blames
    {level : Level}
    {left : Tree}
    {c : Cursor}
    {f : SyntaxFault}
    (h : readClimb level.power left c = .error f)
    (hShort : ∀ token ∈ c.rest, token.lexeme.Short)
    {sum : Option (Tree × Op)}
    {product : Tree}
    {outer : List Front}
    (hCount :
      (Stage.complete sum product outer).opened.count =
        c.nesting)
    (hLimit : c.nesting ≤ depthLimit) :
    f.Blames (.complete sum product outer) c.rest := by
  by_cases hStop : ∀ o ∈ c.operator?, o.power ≤ level.power
  · rw [readClimb_stop hStop] at h
    cases h
  · rcases exists_operator hStop with
      ⟨o, position, rest, hRest, hPower⟩
    rcases hCursor : c with ⟨all, nesting⟩
    rw [hCursor] at h hShort hCount hLimit hRest
    change _ = nesting at hCount
    change nesting ≤ depthLimit at hLimit
    cases hRest
    rw [readClimb_operator hPower, ← o.rightLevel_power] at h
    rcases exists_next_operator o sum product outer with
      ⟨front, hNext, hSigns, hRight⟩
    have hShortRest : ∀ token ∈ rest, token.lexeme.Short :=
      fun token hMem =>
        hShort token (List.mem_cons_of_mem _ hMem)
    have hBehind :
        (Stage.due front outer).opened.count = nesting := by
      rw [← hCount]
      simp only [Stage.opened, Opened.count, hSigns]
    refine SyntaxFault.Blames.cons ?_ hNext
      (hCount ▸ hLimit) (hBehind ▸ hLimit)
    rcases bind_eq_error.mp h with
      hExpression | ⟨⟨right, c₁⟩, hExpression, hClimb⟩
    · exact readExpression_blames o.rightLevel hExpression
        hShortRest hSigns hBehind hLimit
    · have hShorter := readExpression_advances hExpression
      rcases readExpression_sound o.rightLevel hExpression with
        ⟨us, hSplit, hSame, hSpells, _⟩
      rcases hRight hSpells with ⟨sum₁, product₁, hRun⟩
      have hShortLater :
          ∀ token ∈ c₁.rest, token.lexeme.Short := by
        intro token hMem
        refine hShortRest token ?_
        rw [show rest = us ++ c₁.rest from hSplit]
        exact List.mem_append_right us hMem
      have hInside :=
        hSpells.within (o := (Stage.due front outer).opened)
          rfl hBehind hLimit
      rw [show rest = us ++ c₁.rest from hSplit]
      refine SyntaxFault.Blames.after ?_ hRun hInside
      refine readClimb_blames hClimb hShortLater ?_ ?_
      · rw [hSame]
        exact hCount
      · rw [hSame]
        exact hLimit
termination_by (c.rest.length, 0)
decreasing_by
  · rw [hCursor]
    exact Prod.Lex.left _ _ (Nat.lt_succ_self _)
  · rw [hCursor]
    exact Prod.Lex.left _ _ (Nat.lt_succ_of_lt hShorter)

end

------------------------------------------------------------
-- Token Lists
------------------------------------------------------------

/- A fault of reading tokens as one expression is a true one. -/
theorem parseTokens_blames
    {ts : List Token}
    {f : SyntaxFault}
    (h : parseTokens ts = .error f)
    (hShort : ∀ token ∈ ts, token.lexeme.Short) :
    f.Blames .start ts := by
  rcases parseTokens_eq_error_cases h with
    hExpression | ⟨t, c, token, rest, hExpression, hRest, rfl⟩
  · exact readExpression_blames .sum hExpression hShort rfl rfl
      (Nat.zero_le _)
  · rcases readExpression_sound .sum hExpression with
      ⟨us, hSplit, _, hSpells, hStop⟩
    rcases hSpells.run_sum [] with ⟨sum, product, hRun⟩
    have hOperator := operator?_eq_none hRest hStop
    refine ⟨us, rest, _, ?_, hRun, ?_⟩
    · rw [← hRest]
      exact hSplit
    · exact next_complete_start_eq_none hOperator sum product

end Termwise
