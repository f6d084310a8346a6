import Termwise.Proofs.Syntax.Precedence
import Termwise.Proofs.Syntax.Readers

/-
  What the grammar derives from tokens is found by the
  readers, whatever follows the tokens, unless too many
  signs and parentheses are open: then the reading ends
  there.

  Key definitions include:
    * `Found`
    * `Findable`
    * `Stopped`
    * `Overflowing`

  Main declarations:
    * `Derives.findable`
    * `Derives.overflowing`
-/

namespace Termwise

------------------------------------------------------------
-- Trees That Are Found
------------------------------------------------------------

/-
  The readers find a tree of a level in front of `rest`.  A
  reader of the same or a wider level goes on from there.
-/
structure Found
    (level : Level)
    (ts rest : List Token)
    (t : Tree)
    (nesting : Nat) : Prop where
  operand :
    level = .primary →
      readOperand ⟨ts ++ rest, nesting⟩ =
        .ok (t, ⟨rest, nesting⟩)
  expression :
    ∀ wide : Level, wide.power ≤ level.power →
      readExpression wide.power ⟨ts ++ rest, nesting⟩ =
        readClimb wide.power t ⟨rest, nesting⟩

namespace Found

/- A primary is found where its operand is. -/
theorem ofOperand
    {ts rest : List Token}
    {t : Tree}
    {nesting : Nat}
    (h : readOperand ⟨ts ++ rest, nesting⟩ =
      .ok (t, ⟨rest, nesting⟩)) :
    Found .primary ts rest t nesting where
  operand := fun _ => h
  expression := by
    intro wide _
    rw [readExpression_eq, h]
    rfl

/- What is found on a narrow level is so on a wider one. -/
theorem widen
    {narrow wide : Level}
    {ts rest : List Token}
    {t : Tree}
    {nesting : Nat}
    (hWide : wide ≠ .primary)
    (hLevels : wide.power ≤ narrow.power)
    (h : Found narrow ts rest t nesting) :
    Found wide ts rest t nesting where
  operand := fun hPrimary => absurd hPrimary hWide
  expression := fun wider hWider =>
    h.expression wider (Nat.le_trans hWider hLevels)

/-
  An expression is read to its end in front of what cannot
  be taken into it.
-/
theorem read
    {level : Level}
    {ts rest : List Token}
    {t : Tree}
    {nesting : Nat}
    (h : Found level ts rest t nesting)
    (hStop : ∀ o ∈ (Cursor.mk rest nesting).operator?,
      o.power ≤ level.power) :
    readExpression level.power ⟨ts ++ rest, nesting⟩ =
      .ok (t, ⟨rest, nesting⟩) := by
  rw [h.expression level (Nat.le_refl _)]
  exact readClimb_stop hStop

/- Two operands are found with an operator between them. -/
theorem operation
    {o : Op}
    {ts us rest : List Token}
    {t u : Tree}
    {nesting position : Nat}
    (hLeft : Found o.level ts (⟨.op o, position⟩ :: us ++ rest)
      t nesting)
    (hRight : Found o.rightLevel us rest u nesting)
    (hNext : ∀ o' ∈ (Cursor.mk rest nesting).operator?,
      o'.level.power ≤ o.level.power) :
    Found o.level (ts ++ ⟨.op o, position⟩ :: us) rest
      (.bin o t u) nesting where
  operand := by
    intro hPrimary
    cases o <;> cases hPrimary
  expression := by
    intro wide hWide
    have hPower := (wide.power_lt_iff o).mpr hWide
    have hStop : ∀ o' ∈ (Cursor.mk rest nesting).operator?,
        o'.power ≤ o.rightLevel.power := by
      intro o' ho
      have hLevels := hNext o' ho
      rw [o.rightLevel_power, ← o.level_power,
        ← o'.level_power]
      exact Nat.add_le_add_right hLevels 10
    have hRead := hRight.read hStop
    rw [o.rightLevel_power] at hRead
    rw [List.append_assoc, hLeft.expression wide hWide]
    rw [List.cons_append, readClimb_operator hPower, hRead]
    rfl

end Found

------------------------------------------------------------
-- Trees That Are Found Wherever the Limits Allow It
------------------------------------------------------------

/-
  Wherever lexemes stand, the readers find their tree, if
  `n` more signs and parentheses may be open and what
  follows does not take the tree for its own left operand.
-/
def Findable
    (level : Level)
    (ls : List Lexeme)
    (t : Tree)
    (n : Nat) : Prop :=
  ∀ (ts rest : List Token) (nesting : Nat),
    ts.map Token.lexeme = ls →
    (∀ token ∈ ts, token.lexeme.Short) →
    n ≤ depthLimit - nesting →
    (∀ o ∈ (Cursor.mk rest nesting).operator?,
      o.level.power ≤ level.power) →
    Found level ts rest t nesting

namespace Findable

/- A number is findable. -/
theorem number (digits : List Char) :
    Findable .primary [.number digits]
      (.num (Text.numeralValue digits)) 0 := by
  intro ts rest nesting hMap hShort _ _
  rcases List.map_eq_singleton_iff.mp hMap with
    ⟨⟨lexeme, position⟩, rfl, rfl⟩
  have hDigits : digits.length ≤ Text.digitLimit :=
    hShort _ (List.mem_singleton_self _)
  apply Found.ofOperand
  rw [List.singleton_append, readOperand_number,
    if_pos hDigits]

/- A name is findable. -/
theorem name (letters : List Char) :
    Findable .primary [.name letters]
      (.var (String.ofList letters)) 0 := by
  intro ts rest nesting hMap _ _ _
  rcases List.map_eq_singleton_iff.mp hMap with
    ⟨⟨lexeme, position⟩, rfl, rfl⟩
  apply Found.ofOperand
  rw [List.singleton_append, readOperand_name]

/- The negation of a findable primary is findable. -/
theorem negation
    {ls : List Lexeme}
    {t : Tree}
    {n : Nat}
    (h : Findable .primary ls t n) :
    Findable .primary (.op .sub :: ls) (.neg t) (n + 1) := by
  intro ts rest nesting hMap hShort hLimit _
  rcases List.map_eq_cons_iff.mp hMap with
    ⟨⟨lexeme, position⟩, us, rfl, rfl, hInner⟩
  have hNesting : nesting < depthLimit := by omega
  have hShortInner : ∀ token ∈ us, token.lexeme.Short :=
    fun token hToken =>
      hShort token (List.mem_cons_of_mem _ hToken)
  have hFound := h us rest (nesting + 1) hInner hShortInner
    (by omega) (fun o _ => by cases o <;> decide)
  apply Found.ofOperand
  rw [List.cons_append, readOperand_minus, if_pos hNesting,
    hFound.operand rfl]
  rfl

/- A findable sum is findable between parentheses. -/
theorem parentheses
    {ls : List Lexeme}
    {t : Tree}
    {n : Nat}
    (h : Findable .sum ls t n) :
    Findable .primary (.opening :: ls ++ [.closing]) t
      (n + 1) := by
  intro ts rest nesting hMap hShort hLimit _
  rcases List.map_eq_append_iff.mp hMap with
    ⟨before, after, rfl, hBefore, hAfter⟩
  rcases List.map_eq_cons_iff.mp hBefore with
    ⟨⟨lexeme, first⟩, us, rfl, rfl, hInner⟩
  rcases List.map_eq_singleton_iff.mp hAfter with
    ⟨⟨lexeme, last⟩, rfl, rfl⟩
  have hNesting : nesting < depthLimit := by omega
  have hShortInner : ∀ token ∈ us, token.lexeme.Short :=
    fun token hToken => hShort token
      (List.mem_append_left _
        (List.mem_cons_of_mem _ hToken))
  have hFound := h us (⟨.closing, last⟩ :: rest)
    (nesting + 1) hInner hShortInner (by omega)
    (fun o ho => by cases ho)
  have hRead : readExpression 0 _ = _ :=
    hFound.read (fun o ho => by cases ho)
  apply Found.ofOperand
  rw [List.append_assoc, List.cons_append,
    readOperand_opening, if_pos hNesting,
    List.singleton_append, hRead]
  rfl

/- A findable primary is findable as a product. -/
theorem factor
    {ls : List Lexeme}
    {t : Tree}
    {n : Nat}
    (h : Findable .primary ls t n) :
    Findable .product ls t n := by
  intro ts rest nesting hMap hShort hLimit _
  have hFound := h ts rest nesting hMap hShort hLimit
    (fun o _ => by cases o <;> decide)
  exact hFound.widen (by decide) (by decide)

/- A findable product is findable as a sum. -/
theorem term
    {ls : List Lexeme}
    {t : Tree}
    {n : Nat}
    (h : Findable .product ls t n) :
    Findable .sum ls t n := by
  intro ts rest nesting hMap hShort hLimit _
  have hFound := h ts rest nesting hMap hShort hLimit
    (fun o _ => by cases o <;> decide)
  exact hFound.widen (by decide) (by decide)

/- Findable operands are findable with an operator between. -/
theorem operation
    {o : Op}
    {ls ks : List Lexeme}
    {t u : Tree}
    {m n : Nat}
    (hLeft : Findable o.level ls t m)
    (hRight : Findable o.rightLevel ks u n) :
    Findable o.level (ls ++ .op o :: ks) (.bin o t u)
      (max m n) := by
  intro ts rest nesting hMap hShort hLimit hNext
  rcases List.map_eq_append_iff.mp hMap with
    ⟨us, after, rfl, hBefore, hAfter⟩
  rcases List.map_eq_cons_iff.mp hAfter with
    ⟨⟨lexeme, position⟩, vs, rfl, rfl, hLater⟩
  have hFoundLeft := hLeft us
    (⟨.op o, position⟩ :: vs ++ rest) nesting hBefore
    (fun token hToken =>
      hShort token (List.mem_append_left _ hToken))
    (by omega)
    (fun o' ho => by cases ho; exact Nat.le_refl _)
  have hNextRight : ∀ o' ∈ (Cursor.mk rest nesting).operator?,
      o'.level.power ≤ o.rightLevel.power := by
    intro o' ho
    have hLevels := hNext o' ho
    rw [o.rightLevel_power, ← o.level_power]
    exact Nat.le_add_right_of_le hLevels
  have hFoundRight := hRight vs rest nesting hLater
    (fun token hToken => hShort token
      (List.mem_append_right _
        (List.mem_cons_of_mem _ hToken)))
    (by omega) hNextRight
  exact hFoundLeft.operation hFoundRight hNext

end Findable

/- What is derived is findable. -/
theorem Derives.findable
    {level : Level}
    {ls : List Lexeme}
    {t : Tree}
    {n : Nat}
    (h : Derives level ls t n) :
    Findable level ls t n := by
  induction h with
  | number digits => exact .number digits
  | name letters => exact .name letters
  | negation _ ih => exact ih.negation
  | parentheses _ ih => exact ih.parentheses
  | factor _ ih => exact ih.factor
  | term _ ih => exact ih.term
  | times o hOp _ _ ihLeft ihRight =>
      rcases hOp with rfl | rfl
      · exact Findable.operation (o := .mul) ihLeft ihRight
      · exact Findable.operation (o := .div) ihLeft ihRight
  | plus o hOp _ _ ihLeft ihRight =>
      rcases hOp with rfl | rfl
      · exact Findable.operation (o := .add) ihLeft ihRight
      · exact Findable.operation (o := .sub) ihLeft ihRight

------------------------------------------------------------
-- Trees Beyond the Limits
------------------------------------------------------------

/- The readers stop at a token that opens one level too many. -/
structure Stopped
    (level : Level)
    (ts rest : List Token)
    (nesting : Nat) : Prop where
  operand :
    level = .primary → ∃ token,
      readOperand ⟨ts ++ rest, nesting⟩ =
        .error (.nested token)
  expression :
    ∀ wide : Level, wide.power ≤ level.power → ∃ token,
      readExpression wide.power ⟨ts ++ rest, nesting⟩ =
        .error (.nested token)

namespace Stopped

/- An expression stops where its first operand does. -/
theorem ofOperand
    {ts rest : List Token}
    {nesting : Nat}
    {token : Token}
    (h : readOperand ⟨ts ++ rest, nesting⟩ =
      .error (.nested token)) :
    Stopped .primary ts rest nesting where
  operand := fun _ => ⟨token, h⟩
  expression := by
    intro wide _
    refine ⟨token, ?_⟩
    rw [readExpression_eq, h]
    rfl

/- What stops a narrow level stops a wider one. -/
theorem widen
    {narrow wide : Level}
    {ts rest : List Token}
    {nesting : Nat}
    (hWide : wide ≠ .primary)
    (hLevels : wide.power ≤ narrow.power)
    (h : Stopped narrow ts rest nesting) :
    Stopped wide ts rest nesting where
  operand := fun hPrimary => absurd hPrimary hWide
  expression := fun wider hWider =>
    h.expression wider (Nat.le_trans hWider hLevels)

end Stopped

/-
  Wherever lexemes stand, the readers stop inside them if
  fewer than `n` more signs and parentheses may be open.
-/
def Overflowing
    (level : Level)
    (ls : List Lexeme)
    (n : Nat) : Prop :=
  ∀ (ts rest : List Token) (nesting : Nat),
    ts.map Token.lexeme = ls →
    (∀ token ∈ ts, token.lexeme.Short) →
    depthLimit - nesting < n →
    Stopped level ts rest nesting

namespace Overflowing

/- A lexeme that opens nothing does not overflow. -/
theorem leaf
    (level : Level)
    (ls : List Lexeme) :
    Overflowing level ls 0 := by
  intro ts rest nesting _ _ hLimit
  exact absurd hLimit (Nat.not_lt_zero _)

/- A minus sign overflows, or what it negates does. -/
theorem negation
    {ls : List Lexeme}
    {n : Nat}
    (h : Overflowing .primary ls n) :
    Overflowing .primary (.op .sub :: ls) (n + 1) := by
  intro ts rest nesting hMap hShort hLimit
  rcases List.map_eq_cons_iff.mp hMap with
    ⟨⟨lexeme, position⟩, us, rfl, rfl, hInner⟩
  by_cases hNesting : nesting < depthLimit
  · have hShortInner : ∀ token ∈ us, token.lexeme.Short :=
      fun token hToken =>
        hShort token (List.mem_cons_of_mem _ hToken)
    have hStopped := h us rest (nesting + 1) hInner
      hShortInner (by omega)
    rcases hStopped.operand rfl with ⟨token, hToken⟩
    have hStop :
        readOperand
            ⟨⟨.op .sub, position⟩ :: us ++ rest, nesting⟩ =
          .error (.nested token) := by
      rw [List.cons_append, readOperand_minus,
        if_pos hNesting, hToken]
      rfl
    exact .ofOperand hStop
  · apply Stopped.ofOperand
    rw [List.cons_append, readOperand_minus,
      if_neg hNesting]

/- A parenthesis overflows, or what it encloses does. -/
theorem parentheses
    {ls : List Lexeme}
    {n : Nat}
    (h : Overflowing .sum ls n) :
    Overflowing .primary (.opening :: ls ++ [.closing])
      (n + 1) := by
  intro ts rest nesting hMap hShort hLimit
  rcases List.map_eq_append_iff.mp hMap with
    ⟨before, after, rfl, hBefore, _⟩
  rcases List.map_eq_cons_iff.mp hBefore with
    ⟨⟨lexeme, first⟩, us, rfl, rfl, hInner⟩
  by_cases hNesting : nesting < depthLimit
  · have hShortInner : ∀ token ∈ us, token.lexeme.Short :=
      fun token hToken => hShort token
        (List.mem_append_left _
          (List.mem_cons_of_mem _ hToken))
    have hStopped := h us (after ++ rest) (nesting + 1)
      hInner hShortInner (by omega)
    rcases hStopped.expression .sum (Nat.le_refl _) with
      ⟨token, hToken⟩
    have hRead : readExpression 0 _ = _ := hToken
    have hStop :
        readOperand
            ⟨⟨.opening, first⟩ :: us ++ after ++ rest,
              nesting⟩ =
          .error (.nested token) := by
      rw [List.append_assoc, List.cons_append,
        readOperand_opening, if_pos hNesting, hRead]
      rfl
    exact .ofOperand hStop
  · apply Stopped.ofOperand
    rw [List.append_assoc, List.cons_append,
      readOperand_opening, if_neg hNesting]

/-
  An operation overflows in its left operand, or else, the
  left one being found, in its right operand.
-/
theorem operation
    {o : Op}
    {ls ks : List Lexeme}
    {t : Tree}
    {m n : Nat}
    (hFindable : Findable o.level ls t m)
    (hLeft : Overflowing o.level ls m)
    (hRight : Overflowing o.rightLevel ks n) :
    Overflowing o.level (ls ++ .op o :: ks) (max m n) := by
  intro ts rest nesting hMap hShort hLimit
  rcases List.map_eq_append_iff.mp hMap with
    ⟨us, after, rfl, hBefore, hAfter⟩
  rcases List.map_eq_cons_iff.mp hAfter with
    ⟨⟨lexeme, position⟩, vs, rfl, rfl, hLater⟩
  have hShortLeft : ∀ token ∈ us, token.lexeme.Short :=
    fun token hToken =>
      hShort token (List.mem_append_left _ hToken)
  have hShortRight : ∀ token ∈ vs, token.lexeme.Short :=
    fun token hToken => hShort token
      (List.mem_append_right _
        (List.mem_cons_of_mem _ hToken))
  constructor
  · intro hPrimary
    cases o <;> cases hPrimary
  · intro wide hWide
    rw [List.append_assoc]
    by_cases hFits : m ≤ depthLimit - nesting
    · have hFound := hFindable us
        (⟨.op o, position⟩ :: vs ++ rest) nesting hBefore
        hShortLeft hFits
        (fun o' ho => by cases ho; exact Nat.le_refl _)
      have hStopped := hRight vs rest nesting hLater
        hShortRight (by omega)
      rcases hStopped.expression o.rightLevel
          (Nat.le_refl _) with
        ⟨token, hToken⟩
      have hPower := (wide.power_lt_iff o).mpr hWide
      refine ⟨token, ?_⟩
      rw [hFound.expression wide hWide, List.cons_append,
        readClimb_operator hPower, ← o.rightLevel_power,
        hToken]
      rfl
    · exact (hLeft us (⟨.op o, position⟩ :: vs ++ rest)
        nesting hBefore hShortLeft
        (Nat.not_le.mp hFits)).expression wide hWide

end Overflowing

/- What is derived overflows by as much as it opens. -/
theorem Derives.overflowing
    {level : Level}
    {ls : List Lexeme}
    {t : Tree}
    {n : Nat}
    (h : Derives level ls t n) :
    Overflowing level ls n := by
  induction h with
  | number | name => exact .leaf _ _
  | negation _ ih => exact ih.negation
  | parentheses _ ih => exact ih.parentheses
  | factor _ ih | term _ ih =>
      intro ts rest nesting hMap hShort hLimit
      exact (ih ts rest nesting hMap hShort hLimit).widen
        (by decide) (by decide)
  | times o hOp hLeft _ ihLeft ihRight =>
      rcases hOp with rfl | rfl
      · exact Overflowing.operation (o := .mul)
          hLeft.findable ihLeft ihRight
      · exact Overflowing.operation (o := .div)
          hLeft.findable ihLeft ihRight
  | plus o hOp hLeft _ ihLeft ihRight =>
      rcases hOp with rfl | rfl
      · exact Overflowing.operation (o := .add)
          hLeft.findable ihLeft ihRight
      · exact Overflowing.operation (o := .sub)
          hLeft.findable ihLeft ihRight

end Termwise
