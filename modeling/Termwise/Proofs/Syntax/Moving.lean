import Termwise.Proofs.Syntax.Acceptance
import Termwise.Proofs.Syntax.Separation

/-
  Blank characters around a text change nothing but the place
  of its fault: the tree is the same, and a fault is found
  further to the right by as many characters as stand in
  front.

  Key definitions include:
    * `Cursor.moved`
    * `movedBy`

  Main declarations:
    * `movedBy_bind`
    * `readExpression_moved`
    * `parseTokens_moved`
    * `parse_blanks`
    * `parse_trim`
    * `SyntaxFault.message_moved`
-/

namespace Termwise

------------------------------------------------------------
-- Results Further to the Right
------------------------------------------------------------

/- A cursor whose tokens stand further to the right. -/
def Cursor.moved (k : Nat) (c : Cursor) : Cursor :=
  ⟨c.rest.map (Token.moved k), c.nesting⟩

/- A result that is changed, or a fault that is moved. -/
def movedBy
    {α : Type}
    (k : Nat)
    (move : α → α)
    (x : Except SyntaxFault α) : Except SyntaxFault α :=
  match x with
  | .ok a => .ok (move a)
  | .error f => .error (f.moved k)

/- What a reader returns that stands further to the right. -/
def movedReading
    (k : Nat)
    (x : Except SyntaxFault (Tree × Cursor)) :
    Except SyntaxFault (Tree × Cursor) :=
  movedBy k (fun r => (r.1, r.2.moved k)) x

/-
  Two results in a row are moved if the first one is, and the
  second one wherever it comes to that.
-/
theorem movedBy_bind
    {α β : Type}
    {k : Nat}
    {move : α → α}
    {moveNext : β → β}
    {x y : Except SyntaxFault α}
    {next goOn : α → Except SyntaxFault β}
    (hFirst : y = movedBy k move x)
    (hNext : ∀ a, x = .ok a →
      goOn (move a) = movedBy k moveNext (next a)) :
    (y >>= goOn) = movedBy k moveNext (x >>= next) := by
  rw [hFirst]
  cases x with
  | error f => rfl
  | ok a => exact hNext a rfl

------------------------------------------------------------
-- Readers
------------------------------------------------------------

/- The operator in front is the same. -/
theorem Cursor.operator?_moved
    (k : Nat)
    (c : Cursor) :
    (c.moved k).operator? = c.operator? := by
  rcases c with ⟨rest, nesting⟩
  cases rest <;> rfl

/- A closing parenthesis is taken where it stands. -/
theorem readClosing_moved
    (k : Nat)
    (c : Cursor) :
    readClosing (c.moved k) =
      movedBy k (Cursor.moved k) (readClosing c) := by
  rcases c with ⟨rest, nesting⟩
  cases rest with
  | nil => rfl
  | cons token rest =>
      rcases token with ⟨lexeme, position⟩
      by_cases hLexeme : lexeme = .closing
      · subst hLexeme
        rfl
      · show readClosing
            ⟨⟨lexeme, position + k⟩ :: rest.map (Token.moved k),
              nesting⟩ = _
        simp [readClosing, takeClosing, hLexeme, Except.map,
          movedBy, SyntaxFault.moved, Token.moved]

mutual

/- An operand is read where it stands. -/
theorem readOperand_moved
    (k : Nat)
    (c : Cursor) :
    readOperand (c.moved k) =
      movedReading k (readOperand c) := by
  rcases hCursor : c with ⟨rest, nesting⟩
  cases rest with
  | nil =>
      rw [readOperand_nil]
      exact readOperand_nil nesting
  | cons token rest =>
      rcases token with ⟨lexeme, position⟩
      rw [Cursor.moved, List.map_cons, Token.moved]
      cases lexeme with
      | number digits =>
          rw [readOperand_number, readOperand_number]
          split
          · rfl
          · rfl
      | name letters =>
          rw [readOperand_name, readOperand_name]
          rfl
      | op o =>
          by_cases hOp : o = .sub
          · subst hOp
            rw [readOperand_minus, readOperand_minus]
            split
            · exact movedBy_bind
                (readOperand_moved k ⟨rest, nesting + 1⟩)
                fun r _ => rfl
            · rfl
          · rw [readOperand_operator hOp,
              readOperand_operator hOp]
            rfl
      | opening =>
          rw [readOperand_opening, readOperand_opening]
          split
          · refine movedBy_bind
              (readExpression_moved k 0 ⟨rest, nesting + 1⟩) ?_
            intro r _
            exact movedBy_bind (readClosing_moved k r.2)
              fun c₁ _ => rfl
          · rfl
      | closing =>
          rw [readOperand_closing, readOperand_closing]
          rfl
termination_by (c.rest.length, 0)
decreasing_by
  all_goals exact Prod.Lex.left _ _ (Nat.lt_succ_self _)

/- So is an expression. -/
theorem readExpression_moved
    (k power : Nat)
    (c : Cursor) :
    readExpression power (c.moved k) =
      movedReading k (readExpression power c) := by
  rw [readExpression_eq, readExpression_eq]
  refine movedBy_bind (readOperand_moved k c) ?_
  intro r hOperand
  have hShorter := readOperand_advances hOperand
  exact readClimb_moved k power r.1 r.2
termination_by (c.rest.length, 1)

/- So is what follows a left operand. -/
theorem readClimb_moved
    (k power : Nat)
    (left : Tree)
    (c : Cursor) :
    readClimb power left (c.moved k) =
      movedReading k (readClimb power left c) := by
  by_cases hStop : ∀ o ∈ c.operator?, o.power ≤ power
  · have hStop₂ := hStop
    rw [← c.operator?_moved k] at hStop₂
    rw [readClimb_stop hStop, readClimb_stop hStop₂]
    rfl
  · rcases hCursor : c with ⟨rest, nesting⟩
    rw [hCursor] at hStop
    cases rest with
    | nil => exact absurd (fun o ho => by cases ho) hStop
    | cons token rest =>
        rcases token with ⟨lexeme, position⟩
        cases lexeme with
        | op o =>
            have hPower : power < o.power := by
              refine Nat.not_le.mp fun hWeak => hStop ?_
              intro o' ho
              cases ho
              exact hWeak
            rw [Cursor.moved, List.map_cons, Token.moved,
              readClimb_operator hPower,
              readClimb_operator hPower]
            refine movedBy_bind
              (readExpression_moved k o.power ⟨rest, nesting⟩)
              ?_
            intro r hExpression
            have hShorter := readExpression_advances hExpression
            exact readClimb_moved k power _ r.2
        | number | name | opening | closing =>
            exact absurd (fun o ho => by cases ho) hStop
termination_by (c.rest.length, 0)
decreasing_by
  · exact Prod.Lex.left _ _ (Nat.lt_succ_self _)
  · exact Prod.Lex.left _ _ (Nat.lt_succ_of_lt hShorter)

end

------------------------------------------------------------
-- Texts
------------------------------------------------------------

/- Tokens are read, and none of them may be left. -/
theorem parseTokens_eq_bind (ts : List Token) :
    parseTokens ts =
      readExpression 0 ⟨ts, 0⟩ >>= fun r =>
        match r.2.rest with
        | [] => .ok r.1
        | found :: _ => .error (.trailing found) := by
  unfold parseTokens readExpression
  cases expression 0 ⟨ts, 0⟩ with
  | error f => rfl
  | ok r => rfl

/- Tokens further to the right are read as the same tree. -/
theorem parseTokens_moved
    (k : Nat)
    (ts : List Token) :
    parseTokens (ts.map (Token.moved k)) =
      movedBy k id (parseTokens ts) := by
  rw [parseTokens_eq_bind, parseTokens_eq_bind]
  refine movedBy_bind (readExpression_moved k 0 ⟨ts, 0⟩) ?_
  rintro ⟨t, ⟨rest, nesting⟩⟩ _
  cases rest <;> rfl

/- The tokens of a text between blank characters. -/
theorem tokensFrom_blanks_around
    {front back : List Char}
    (hFront : ∀ c ∈ front, Text.isBlank c = true)
    (hBack : ∀ c ∈ back, Text.isBlank c = true)
    (text : List Char) :
    tokensFrom 0 (front ++ text ++ back) =
      movedBy front.length (List.map (Token.moved front.length))
        (tokensFrom 0 text) := by
  have hLast : ∀ position,
      tokensFrom position back = .ok [] := by
    intro position
    have hAll := tokensFrom_blanks hBack [] position
    rw [List.append_nil, tokensFrom] at hAll
    exact hAll
  have hEnds : EndsRun Text.isDigit back ∧ EndsRun isLetter back := by
    by_cases hSome : back = []
    · rw [hSome]
      exact ⟨.nil _, .nil _⟩
    · have hBoth := endsRun_of_blank hSome hBack []
      rw [List.append_nil] at hBoth
      exact hBoth
  rw [List.append_assoc, tokensFrom_blanks hFront,
    tokensFrom_moved, tokensFrom_append hEnds.1 hEnds.2, hLast]
  cases tokensFrom 0 text with
  | error f => rfl
  | ok ts =>
      simp only [bind, Except.bind, inFront, Except.map,
        List.append_nil]
      rfl

/-
  Blank characters around a text do not change the tree that
  it is read as.  If it is refused then its fault is found
  further to the right by the characters in front.
-/
theorem parse_blanks
    {front back : List Char}
    (hFront : ∀ c ∈ front, Text.isBlank c = true)
    (hBack : ∀ c ∈ back, Text.isBlank c = true)
    (text : List Char) :
    parse (String.ofList (front ++ text ++ back)) =
      movedBy front.length id (parse (String.ofList text)) := by
  have hTokens :
      tokens (String.ofList (front ++ text ++ back)) =
        movedBy front.length
          (List.map (Token.moved front.length))
          (tokens (String.ofList text)) := by
    simp only [tokens, String.toList_ofList]
    exact tokensFrom_blanks_around hFront hBack text
  rw [parse_eq_bind, parse_eq_bind]
  refine movedBy_bind hTokens ?_
  intro ts _
  refine movedBy_bind (parseTokens_moved _ ts) ?_
  intro t _
  show (if t.depth ≤ depthLimit then _ else _) = _
  split
  · rfl
  · rfl

/- So it is between its trimmed form and the whole of it. -/
theorem parse_trim (text : String) :
    parse text =
      movedBy (text.toList.takeWhile Text.isBlank).length id
        (parse (String.ofList
          (Text.trim Text.isBlank text.toList))) := by
  rcases Text.trim_between Text.isBlank text.toList with
    ⟨back, hText, hBack⟩
  have hFront :
      ∀ c ∈ text.toList.takeWhile Text.isBlank,
        Text.isBlank c = true :=
    fun _ hc => List.mem_takeWhile_imp hc
  have hParse := parse_blanks hFront hBack
    (Text.trim Text.isBlank text.toList)
  rw [← hText, String.ofList_toList] at hParse
  exact hParse

/-
  The message of a fault that is further to the right differs
  by the position at its end, if it tells one.
-/
theorem SyntaxFault.message_moved
    (k : Nat)
    (f : SyntaxFault) :
    f.position = none ∧ (f.moved k).message = f.message ∨
      ∃ stem n, f.position = some n ∧
        f.message = stem ++ atPosition n ∧
        (f.moved k).message = stem ++ atPosition (n + k) := by
  cases f with
  | cutShort e => exact .inl ⟨rfl, rfl⟩
  | deep => exact .inl ⟨rfl, rfl⟩
  | strayCharacter c n | longNumber digits n =>
      exact .inr ⟨_, n, rfl, rfl, rfl⟩
  | noOperand token | unclosed token | trailing token
  | nested token =>
      exact .inr ⟨_, token.position, rfl, rfl, rfl⟩

end Termwise
