import Termwise.Proofs.Result
import Termwise.Proofs.Syntax.Scanning

/-
  A text is scanned lexeme by lexeme.  What its tokens are is
  proved by induction on that: a text ends, or it begins with
  a lexeme, with a blank character, or with a character that
  may not stand in it.

  Key definitions include:
    * `Lexeme.WellSpelled`
    * `Lexeme.EndsBefore`
    * `Legible`
    * `Scanned`

  Main declarations:
    * `tokensFrom_lexeme`
    * `tokensFrom_stray`
    * `scanned`
    * `legible_of_tokensFrom`
    * `tokensFrom_wellSpelled`
-/

namespace Termwise

------------------------------------------------------------
-- Lexemes
------------------------------------------------------------

namespace Lexeme

/- A number consists of digits, and a name of letters. -/
def WellSpelled : Lexeme → Prop
| number digits =>
    digits ≠ [] ∧ ∀ c ∈ digits, Text.isDigit c = true
| name letters =>
    letters ≠ [] ∧ ∀ c ∈ letters, isLetter c = true
| _ => True

/-
  A lexeme is as long as it can be in front of some text: a
  number is not followed by a digit, nor a name by a letter.
-/
def EndsBefore (rest : List Char) : Lexeme → Prop
| number _ => EndsRun Text.isDigit rest
| name _ => EndsRun isLetter rest
| _ => True

/- It is still so if the text goes on without a run. -/
theorem EndsBefore.append
    {l : Lexeme}
    {cs ds : List Char}
    (h : l.EndsBefore cs)
    (hDigit : EndsRun Text.isDigit ds)
    (hLetter : EndsRun isLetter ds) :
    l.EndsBefore (cs ++ ds) := by
  cases l with
  | number digits => exact EndsRun.append h hDigit
  | name letters => exact EndsRun.append h hLetter
  | op | opening | closing => trivial

/- What stands for itself may stand anywhere. -/
theorem symbol?_eq_some
    {c : Char}
    {l : Lexeme}
    (h : symbol? c = some l) :
    l.chars = [c] ∧ l.WellSpelled ∧
      ∀ rest, l.EndsBefore rest := by
  unfold symbol? at h
  split_ifs at h with hPlus hMinus hTimes hOver hOpen hClose
  all_goals
    subst_vars
    cases h
    exact ⟨rfl, trivial, fun _ => trivial⟩

end Lexeme

/- A lexeme that a text begins with is its first token. -/
theorem tokensFrom_lexeme
    {l : Lexeme}
    {rest : List Char}
    (hSpelled : l.WellSpelled)
    (hEnds : l.EndsBefore rest)
    (position : Nat) :
    tokensFrom position (l.chars ++ rest) =
      inFront [⟨l, position⟩]
        (tokensFrom (position + l.chars.length) rest) := by
  cases l with
  | number digits =>
      exact tokensFrom_number hSpelled.1 hSpelled.2 hEnds
        position
  | name letters =>
      exact tokensFrom_name hSpelled.1 hSpelled.2 hEnds position
  | op o =>
      exact tokensFrom_symbol (symbol?_sign o) rest position
  | opening | closing => exact tokensFrom_symbol rfl rest position

------------------------------------------------------------
-- Characters
------------------------------------------------------------

/- A character may stand in a text that has tokens. -/
def Legible (c : Char) : Prop :=
  Text.isDigit c = true ∨ isLetter c = true ∨
    Text.isBlank c = true ∨ (Lexeme.symbol? c).isSome = true

instance (c : Char) : Decidable (Legible c) := by
  unfold Legible
  infer_instance

/- The characters of a lexeme may stand in a text. -/
theorem Lexeme.legible_of_mem_chars
    {l : Lexeme}
    (h : l.WellSpelled) :
    ∀ c ∈ l.chars, Legible c := by
  cases l with
  | number digits => exact fun c hc => .inl (h.2 c hc)
  | name letters => exact fun c hc => .inr (.inl (h.2 c hc))
  | op o =>
      intro c hc
      rw [List.mem_singleton.mp hc]
      cases o <;> decide
  | opening | closing =>
      intro c hc
      rw [List.mem_singleton.mp hc]
      decide

/- A character that may not stand in a text is a fault. -/
theorem tokensFrom_stray
    {c : Char}
    (h : ¬ Legible c)
    (rest : List Char)
    (position : Nat) :
    tokensFrom position (c :: rest) =
      .error (.strayCharacter c position) := by
  simp only [Legible, not_or] at h
  rcases h with ⟨hDigit, hLetter, hBlank, hSymbol⟩
  rw [tokensFrom, if_neg hDigit, if_neg hLetter, if_neg hBlank,
    Option.not_isSome_iff_eq_none.mp hSymbol]

------------------------------------------------------------
-- Texts
------------------------------------------------------------

/-
  A text as it is scanned.  It ends, or it begins with a
  lexeme that is as long as it can be, with a blank character,
  or with a character that may not stand in it.
-/
inductive Scanned : List Char → Prop where
| nil : Scanned []
| lexeme {l : Lexeme} {rest : List Char} :
    l.WellSpelled → l.EndsBefore rest → Scanned rest →
      Scanned (l.chars ++ rest)
| blank {c : Char} {rest : List Char} :
    Text.isBlank c = true → Scanned rest →
      Scanned (c :: rest)
| stray {c : Char} {rest : List Char} :
    ¬ Legible c → Scanned (c :: rest)

/- A run is made of characters of its class. -/
theorem forall_mem_run
    {p : Char → Bool}
    {c : Char}
    (hFirst : p c = true)
    (cs : List Char) :
    ∀ d ∈ c :: cs.takeWhile p, p d = true := by
  intro d hMem
  rcases List.mem_cons.mp hMem with rfl | hLater
  · exact hFirst
  · exact List.mem_takeWhile_imp hLater

/- Every text is scanned. -/
theorem scanned (text : List Char) : Scanned text := by
  match text with
  | [] => exact .nil
  | c :: cs =>
      by_cases hDigit : Text.isDigit c = true
      · have hRun :
            c :: cs =
              (Lexeme.number
                (c :: cs.takeWhile Text.isDigit)).chars ++
                cs.dropWhile Text.isDigit := by
          rw [Lexeme.chars, List.cons_append,
            List.takeWhile_append_dropWhile]
        rw [hRun]
        exact .lexeme
          ⟨List.cons_ne_nil _ _, forall_mem_run hDigit cs⟩
          (EndsRun.dropWhile _ cs)
          (scanned (cs.dropWhile Text.isDigit))
      by_cases hLetter : isLetter c = true
      · have hRun :
            c :: cs =
              (Lexeme.name (c :: cs.takeWhile isLetter)).chars
                ++ cs.dropWhile isLetter := by
          rw [Lexeme.chars, List.cons_append,
            List.takeWhile_append_dropWhile]
        rw [hRun]
        exact .lexeme
          ⟨List.cons_ne_nil _ _, forall_mem_run hLetter cs⟩
          (EndsRun.dropWhile _ cs)
          (scanned (cs.dropWhile isLetter))
      by_cases hBlank : Text.isBlank c = true
      · exact .blank hBlank (scanned cs)
      cases hSymbol : Lexeme.symbol? c with
      | none =>
          apply Scanned.stray
          simp [Legible, hDigit, hLetter, hBlank, hSymbol]
      | some l =>
          rcases Lexeme.symbol?_eq_some hSymbol with
            ⟨hChars, hSpelled, hEnds⟩
          have hScanned :=
            Scanned.lexeme hSpelled (hEnds cs) (scanned cs)
          rw [hChars] at hScanned
          exact hScanned
termination_by text.length
decreasing_by
  · exact Nat.lt_succ_of_le (length_dropWhile_le _ cs)
  · exact Nat.lt_succ_of_le (length_dropWhile_le _ cs)
  · exact Nat.lt_succ_self _
  · exact Nat.lt_succ_self _

/- A text that has tokens has no other characters. -/
theorem legible_of_tokensFrom
    {position : Nat}
    {text : List Char}
    {ts : List Token}
    (h : tokensFrom position text = .ok ts) :
    ∀ c ∈ text, Legible c := by
  induction scanned text generalizing position ts with
  | nil => exact List.forall_mem_nil _
  | lexeme hSpelled hEnds _ ih =>
      rw [tokensFrom_lexeme hSpelled hEnds, inFront,
        map_eq_ok] at h
      rcases h with ⟨us, hRest, _⟩
      exact List.forall_mem_append.mpr
        ⟨Lexeme.legible_of_mem_chars hSpelled, ih hRest⟩
  | blank hBlank _ ih =>
      rw [tokensFrom_blank hBlank] at h
      exact List.forall_mem_cons.mpr
        ⟨.inr (.inr (.inl hBlank)), ih h⟩
  | stray hStray =>
      rw [tokensFrom_stray hStray] at h
      cases h

/- Every token of a text is well spelled. -/
theorem tokensFrom_wellSpelled
    {position : Nat}
    {text : List Char}
    {ts : List Token}
    (h : tokensFrom position text = .ok ts) :
    ∀ token ∈ ts, token.lexeme.WellSpelled := by
  induction scanned text generalizing position ts with
  | nil =>
      rw [tokensFrom] at h
      cases h
      exact List.forall_mem_nil _
  | lexeme hSpelled hEnds _ ih =>
      rw [tokensFrom_lexeme hSpelled hEnds, inFront,
        map_eq_ok] at h
      rcases h with ⟨us, hRest, rfl⟩
      exact List.forall_mem_cons.mpr ⟨hSpelled, ih hRest⟩
  | blank hBlank _ ih =>
      rw [tokensFrom_blank hBlank] at h
      exact ih h
  | stray hStray =>
      rw [tokensFrom_stray hStray] at h
      cases h

end Termwise
