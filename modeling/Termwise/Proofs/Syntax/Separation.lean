import Mathlib.Data.List.Basic
import Termwise.Proofs.Syntax.Lexemes

/-
  Blank characters only separate tokens.  The tokens of two
  texts with blank characters between them are those of the
  first text and, further to the right, those of the second.

  Key definitions include:
    * `Token.moved`
    * `SyntaxFault.moved`

  Main declarations:
    * `tokensFrom_append`
    * `tokensFrom_moved`
    * `tokens_separated`
-/

namespace Termwise

------------------------------------------------------------
-- A Text After Another
------------------------------------------------------------

/-
  The tokens of a text that goes on.  No run reaches over the
  seam if what follows begins neither with a digit nor with a
  letter.
-/
theorem tokensFrom_append
    {more : List Char}
    (hDigit : EndsRun Text.isDigit more)
    (hLetter : EndsRun isLetter more)
    (text : List Char)
    (position : Nat) :
    tokensFrom position (text ++ more) =
      (tokensFrom position text >>= fun ts =>
        inFront ts (tokensFrom (position + text.length) more)) := by
  induction scanned text generalizing position with
  | nil =>
      rw [tokensFrom]
      exact (inFront_nil _).symm
  | @lexeme l rest hSpelled hEnds _ ih =>
      rw [List.append_assoc, tokensFrom_lexeme hSpelled
          (hEnds.append hDigit hLetter),
        tokensFrom_lexeme hSpelled hEnds, ih,
        List.length_append, ← Nat.add_assoc]
      cases tokensFrom (position + l.chars.length) rest with
      | error f => rfl
      | ok ts => exact inFront_inFront _ _ _
  | @blank c rest hBlank _ ih =>
      rw [List.cons_append, tokensFrom_blank hBlank,
        tokensFrom_blank hBlank, ih, List.length_cons,
        Nat.add_assoc, Nat.add_comm 1]
  | stray hStray =>
      rw [List.cons_append, tokensFrom_stray hStray,
        tokensFrom_stray hStray]
      rfl

/- Blank characters in front are passed over. -/
theorem tokensFrom_blanks
    {blanks : List Char}
    (hBlank : ∀ c ∈ blanks, Text.isBlank c = true)
    (rest : List Char)
    (position : Nat) :
    tokensFrom position (blanks ++ rest) =
      tokensFrom (position + blanks.length) rest := by
  induction blanks generalizing position with
  | nil => rfl
  | cons c blanks ih =>
      rcases List.forall_mem_cons.mp hBlank with ⟨hFirst, hLater⟩
      rw [List.cons_append, tokensFrom_blank hFirst, ih hLater,
        List.length_cons, Nat.add_assoc, Nat.add_comm 1]

------------------------------------------------------------
-- Moving to the Right
------------------------------------------------------------

/- A token that stands further to the right. -/
def Token.moved (k : Nat) (token : Token) : Token :=
  ⟨token.lexeme, token.position + k⟩

namespace SyntaxFault

/- A fault that is found further to the right. -/
def moved (k : Nat) : SyntaxFault → SyntaxFault
| strayCharacter c n => strayCharacter c (n + k)
| longNumber digits n => longNumber digits (n + k)
| cutShort e => cutShort e
| noOperand token => noOperand (token.moved k)
| unclosed token => unclosed (token.moved k)
| trailing token => trailing (token.moved k)
| nested token => nested (token.moved k)
| deep => deep

/- It is found at a position that is greater by as much. -/
theorem position_moved
    (k : Nat)
    (f : SyntaxFault) :
    (f.moved k).position = f.position.map (· + k) := by
  cases f <;> rfl

end SyntaxFault

/- A text that starts further to the right. -/
theorem tokensFrom_moved
    (k : Nat)
    (text : List Char)
    (position : Nat) :
    tokensFrom (position + k) text =
      match tokensFrom position text with
      | .error f => .error (f.moved k)
      | .ok ts => .ok (ts.map (Token.moved k)) := by
  induction scanned text generalizing position with
  | nil =>
      rw [tokensFrom, tokensFrom]
      rfl
  | @lexeme l rest hSpelled hEnds _ ih =>
      rw [tokensFrom_lexeme hSpelled hEnds,
        tokensFrom_lexeme hSpelled hEnds, Nat.add_right_comm,
        ih]
      cases tokensFrom (position + l.chars.length) rest with
      | error f => rfl
      | ok ts => rfl
  | blank hBlank _ ih =>
      rw [tokensFrom_blank hBlank, tokensFrom_blank hBlank,
        Nat.add_right_comm, ih]
  | stray hStray =>
      rw [tokensFrom_stray hStray, tokensFrom_stray hStray]
      rfl

------------------------------------------------------------
-- Separated Texts
------------------------------------------------------------

/- Blank characters end every run. -/
theorem endsRun_of_blank
    {w : List Char}
    (hSome : w ≠ [])
    (hBlank : ∀ c ∈ w, Text.isBlank c = true)
    (rest : List Char) :
    EndsRun Text.isDigit (w ++ rest) ∧
      EndsRun isLetter (w ++ rest) := by
  cases w with
  | nil => exact absurd rfl hSome
  | cons c cs =>
      rcases not_run_of_isBlank (hBlank c List.mem_cons_self)
        with ⟨hDigit, hLetter⟩
      exact ⟨.cons hDigit _, .cons hLetter _⟩

/-
  Two texts with blank characters between them have the
  tokens of the first and then those of the second, which are
  further to the right by what stands in front of the second.
  A fault of the first text is the fault of the whole.  If it
  has none then a fault of the second text is, further to the
  right by as much.
-/
theorem tokens_separated
    {w : String}
    (hSome : w ≠ "")
    (hBlank : ∀ c ∈ w.toList, Text.isBlank c = true)
    (s t : String) :
    tokens (s ++ w ++ t) =
      match tokens s, tokens t with
      | .error f, _ => .error f
      | .ok _, .error f =>
          .error (f.moved (s.length + w.length))
      | .ok ts, .ok us =>
          .ok (ts ++
            us.map (Token.moved (s.length + w.length))) := by
  have hNonempty : w.toList ≠ [] := by
    intro hNil
    exact hSome (String.toList_injective hNil)
  rcases endsRun_of_blank hNonempty hBlank t.toList with
    ⟨hDigit, hLetter⟩
  have hSecond :
      tokensFrom (0 + s.toList.length) (w.toList ++ t.toList) =
        tokensFrom (0 + (s.length + w.length)) t.toList := by
    rw [tokensFrom_blanks hBlank, Nat.add_assoc]
    rfl
  rw [tokens, String.toList_append, String.toList_append,
    List.append_assoc, tokensFrom_append hDigit hLetter,
    hSecond, tokensFrom_moved, tokens, tokens]
  cases tokensFrom 0 s.toList with
  | error f => rfl
  | ok ts =>
      cases tokensFrom 0 t.toList with
      | error f => rfl
      | ok us => rfl

/-
  Digits on both sides of a tabulator and a space are two
  numbers.  Of two faults the first one counts, and the only
  one is found behind all that stands in front of it.
-/
theorem tokens_separated_numbers :
    "\t " ≠ "" ∧
      (∀ c ∈ "\t ".toList, Text.isBlank c = true) ∧
      tokens ("12" ++ "\t " ++ "3") =
        .ok [⟨.number ['1', '2'], 0⟩, ⟨.number ['3'], 4⟩] ∧
      tokens ("1 $" ++ "\t " ++ "#") =
        .error (.strayCharacter '$' 2) ∧
      tokens ("12" ++ "\t " ++ "x = 1") =
        .error (.strayCharacter '=' 6) := by
  have hSome : "\t " ≠ "" := by decide
  have hBlank :
      ∀ c ∈ "\t ".toList, Text.isBlank c = true := by
    intro c hc
    have hEither : c = '\t' ∨ c = ' ' := by simpa using hc
    rcases hEither with rfl | rfl
    · rfl
    · rfl
  have hNumber :
      tokens "12" = .ok [⟨.number ['1', '2'], 0⟩] := by
    cbv
  have hNumber₂ : tokens "3" = .ok [⟨.number ['3'], 0⟩] := by
    cbv
  have hFault :
      tokens "1 $" = .error (.strayCharacter '$' 2) := by
    cbv
  have hFault₂ :
      tokens "x = 1" = .error (.strayCharacter '=' 2) := by
    cbv
  refine ⟨hSome, hBlank, ?_, ?_, ?_⟩
  · rw [tokens_separated hSome hBlank, hNumber, hNumber₂]
    rfl
  · rw [tokens_separated hSome hBlank, hFault]
  · rw [tokens_separated hSome hBlank, hNumber, hFault₂]
    rfl

end Termwise
