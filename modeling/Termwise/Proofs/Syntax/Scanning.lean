import Mathlib.Tactic.SplitIfs
import Termwise.Proofs.Text.Numeral
import Termwise.Proofs.Text.Run
import Termwise.Syntax.Tokens

/-
  What a text begins with is cut off as one token, and the
  tokens of the rest follow.

  Key definitions include:
    * `inFront`
    * `CutsInto`

  Main declarations:
    * `tokensFrom_number`
    * `tokensFrom_name`
    * `tokensFrom_blank`
    * `tokensFrom_symbol`
    * `CutsInto.before`
    * `CutsInto.tokens_eq`
    * `CutsInto.unique`
-/

namespace Termwise

------------------------------------------------------------
-- Classes of Characters
------------------------------------------------------------

/- The code points of letters. -/
theorem isLetter_iff (c : Char) :
    isLetter c = true ↔
      (97 ≤ c.toNat ∧ c.toNat ≤ 122) ∨
        (65 ≤ c.toNat ∧ c.toNat ≤ 90) := by
  simp only [isLetter, Bool.or_eq_true, Bool.and_eq_true,
    decide_eq_true_eq, Char.le_def, UInt32.le_iff_toNat_le]
  rfl

/- No visible character of ASCII is blank. -/
theorem toNat_of_isBlank
    {c : Char}
    (h : Text.isBlank c = true) :
    c.toNat ≤ 32 ∨ 133 ≤ c.toNat := by
  simp only [Text.isBlank, Text.within, Text.spacingRanges,
    Text.separatorRanges, Text.rangesOf, Text.Range.has,
    List.any_cons, List.any_nil, Bool.or_eq_true,
    Bool.and_eq_true, decide_eq_true_eq,
    Bool.false_eq_true, or_false] at h
  omega

/- A character that stands for itself. -/
theorem toNat_of_symbol?
    {c : Char}
    {l : Lexeme}
    (h : Lexeme.symbol? c = some l) :
    40 ≤ c.toNat ∧ c.toNat ≤ 47 := by
  unfold Lexeme.symbol? at h
  split_ifs at h with hPlus hMinus hTimes hOver hOpen hClose
  all_goals subst_vars; decide

/- A digit is no letter. -/
theorem isDigit_eq_false_of_isLetter
    {c : Char}
    (h : isLetter c = true) :
    Text.isDigit c = false := by
  rw [isLetter_iff] at h
  rw [Bool.eq_false_iff, ne_eq, Text.isDigit_iff]
  omega

/- What is blank starts no run. -/
theorem not_run_of_isBlank
    {c : Char}
    (h : Text.isBlank c = true) :
    Text.isDigit c = false ∧ isLetter c = false := by
  have hCode := toNat_of_isBlank h
  rw [Bool.eq_false_iff, Bool.eq_false_iff, ne_eq, ne_eq,
    Text.isDigit_iff, isLetter_iff]
  omega

/- What stands for itself starts no run and is not blank. -/
theorem not_run_of_symbol?
    {c : Char}
    {l : Lexeme}
    (h : Lexeme.symbol? c = some l) :
    Text.isDigit c = false ∧ isLetter c = false ∧
      Text.isBlank c = false := by
  have hCode := toNat_of_symbol? h
  have hBlank : ¬ Text.isBlank c = true := by
    intro hBlank
    have hCode₂ := toNat_of_isBlank hBlank
    omega
  rw [Bool.eq_false_iff, Bool.eq_false_iff, Bool.eq_false_iff,
    ne_eq, ne_eq, Text.isDigit_iff, isLetter_iff]
  exact ⟨by omega, by omega, hBlank⟩

------------------------------------------------------------
-- Tokens
------------------------------------------------------------

/- Tokens in front of those of the rest, if it has any. -/
def inFront
    (ts : List Token)
    (rest : Except SyntaxFault (List Token)) :
    Except SyntaxFault (List Token) :=
  rest.map (ts ++ ·)

/- What stands in front of tokens in front of the rest. -/
theorem inFront_inFront
    (ts us : List Token)
    (rest : Except SyntaxFault (List Token)) :
    inFront ts (inFront us rest) = inFront (ts ++ us) rest := by
  cases rest with
  | error f => rfl
  | ok vs =>
      simp only [inFront, Except.map, List.append_assoc]

/- No tokens in front change nothing. -/
theorem inFront_nil
    (rest : Except SyntaxFault (List Token)) :
    inFront [] rest = rest := by
  cases rest with
  | error f => rfl
  | ok ts => rfl

/- At the end of a text the tokens in front are all. -/
theorem inFront_end
    (ts : List Token)
    (position : Nat) :
    inFront ts (tokensFrom position []) = .ok ts := by
  rw [tokensFrom]
  simp only [inFront, Except.map, List.append_nil]

/- A run of digits is a number. -/
theorem tokensFrom_number
    {digits rest : List Char}
    (hSome : digits ≠ [])
    (hDigits : ∀ c ∈ digits, Text.isDigit c = true)
    (hRest : EndsRun Text.isDigit rest)
    (position : Nat) :
    tokensFrom position (digits ++ rest) =
      inFront [⟨.number digits, position⟩]
        (tokensFrom (position + digits.length) rest) := by
  cases digits with
  | nil => exact absurd rfl hSome
  | cons c run =>
      have hFirst : Text.isDigit c = true :=
        hDigits c List.mem_cons_self
      have hRun : ∀ d ∈ run, Text.isDigit d = true :=
        fun d hd => hDigits d (List.mem_cons_of_mem _ hd)
      rw [List.cons_append, tokensFrom, if_pos hFirst]
      simp only [takeWhile_run hRun hRest,
        dropWhile_run hRun hRest]
      cases tokensFrom (position + (c :: run).length) rest with
      | error f => rfl
      | ok ts => rfl

/- A run of letters is a name. -/
theorem tokensFrom_name
    {letters rest : List Char}
    (hSome : letters ≠ [])
    (hLetters : ∀ c ∈ letters, isLetter c = true)
    (hRest : EndsRun isLetter rest)
    (position : Nat) :
    tokensFrom position (letters ++ rest) =
      inFront [⟨.name letters, position⟩]
        (tokensFrom (position + letters.length) rest) := by
  cases letters with
  | nil => exact absurd rfl hSome
  | cons c run =>
      have hFirst : isLetter c = true :=
        hLetters c List.mem_cons_self
      have hDigit : ¬ Text.isDigit c = true := by
        simp [isDigit_eq_false_of_isLetter hFirst]
      have hRun : ∀ d ∈ run, isLetter d = true :=
        fun d hd => hLetters d (List.mem_cons_of_mem _ hd)
      rw [List.cons_append, tokensFrom, if_neg hDigit,
        if_pos hFirst]
      simp only [takeWhile_run hRun hRest,
        dropWhile_run hRun hRest]
      cases tokensFrom (position + (c :: run).length) rest with
      | error f => rfl
      | ok ts => rfl

/- A blank character is passed over. -/
theorem tokensFrom_blank
    {c : Char}
    (hBlank : Text.isBlank c = true)
    (rest : List Char)
    (position : Nat) :
    tokensFrom position (c :: rest) =
      tokensFrom (position + 1) rest := by
  rcases not_run_of_isBlank hBlank with ⟨hDigit, hLetter⟩
  rw [tokensFrom, if_neg (by simp [hDigit]),
    if_neg (by simp [hLetter]), if_pos hBlank]

/- A character that stands for itself is a token. -/
theorem tokensFrom_symbol
    {c : Char}
    {l : Lexeme}
    (hSymbol : Lexeme.symbol? c = some l)
    (rest : List Char)
    (position : Nat) :
    tokensFrom position (c :: rest) =
      inFront [⟨l, position⟩]
        (tokensFrom (position + 1) rest) := by
  rcases not_run_of_symbol? hSymbol with
    ⟨hDigit, hLetter, hBlank⟩
  rw [tokensFrom, if_neg (by simp [hDigit]),
    if_neg (by simp [hLetter]), if_neg (by simp [hBlank])]
  simp only [hSymbol]
  cases tokensFrom (position + 1) rest with
  | error f => rfl
  | ok ts => rfl

/- The sign of an operator stands for itself. -/
theorem symbol?_sign (o : Op) :
    Lexeme.symbol? o.sign = some (.op o) := by
  cases o <;> rfl

------------------------------------------------------------
-- Characters Wherever They Stand
------------------------------------------------------------

/-
  Characters are cut into lexemes wherever they stand, in
  front of what continues neither a number nor a name.
-/
def CutsInto
    (cs : List Char)
    (ls : List Lexeme) : Prop :=
  ∀ (rest : List Char) (position : Nat),
    EndsRun Text.isDigit rest →
    EndsRun isLetter rest →
    ∃ ts, ts.map Token.lexeme = ls ∧
      tokensFrom position (cs ++ rest) =
        inFront ts (tokensFrom (position + cs.length) rest)

namespace CutsInto

variable {cs ds : List Char} {ls ks : List Lexeme}

/- Where there are no characters there are no lexemes. -/
theorem nil : CutsInto [] [] := by
  intro rest position _ _
  exact ⟨[], rfl, (inFront_nil _).symm⟩

/- A run of digits is one number. -/
theorem number
    {digits : List Char}
    (hSome : digits ≠ [])
    (hDigits : ∀ c ∈ digits, Text.isDigit c = true) :
    CutsInto digits [.number digits] := by
  intro rest position hDigit _
  exact ⟨[⟨.number digits, position⟩], rfl,
    tokensFrom_number hSome hDigits hDigit position⟩

/- A run of letters is one name. -/
theorem name
    {letters : List Char}
    (hSome : letters ≠ [])
    (hLetters : ∀ c ∈ letters, isLetter c = true) :
    CutsInto letters [.name letters] := by
  intro rest position _ hLetter
  exact ⟨[⟨.name letters, position⟩], rfl,
    tokensFrom_name hSome hLetters hLetter position⟩

/- A character that stands for itself comes first. -/
theorem symbol
    {c : Char}
    {l : Lexeme}
    (hSymbol : Lexeme.symbol? c = some l)
    (h : CutsInto cs ls) :
    CutsInto (c :: cs) (l :: ls) := by
  intro rest position hDigit hLetter
  rcases h rest (position + 1) hDigit hLetter with
    ⟨ts, rfl, hTokens⟩
  refine ⟨⟨l, position⟩ :: ts, rfl, ?_⟩
  rw [List.cons_append, tokensFrom_symbol hSymbol, hTokens,
    inFront_inFront, List.length_cons, Nat.add_assoc,
    Nat.add_comm 1]
  rfl

/- A blank character in front changes nothing. -/
theorem blank
    {c : Char}
    (hBlank : Text.isBlank c = true)
    (h : CutsInto cs ls) :
    CutsInto (c :: cs) ls := by
  intro rest position hDigit hLetter
  rcases h rest (position + 1) hDigit hLetter with
    ⟨ts, rfl, hTokens⟩
  refine ⟨ts, rfl, ?_⟩
  rw [List.cons_append, tokensFrom_blank hBlank, hTokens,
    List.length_cons, Nat.add_assoc, Nat.add_comm 1]

/- One text comes before another that begins no run. -/
theorem before
    {c : Char}
    (hDigit : Text.isDigit c = false)
    (hLetter : isLetter c = false)
    (hFirst : CutsInto cs ls)
    (hSecond : CutsInto (c :: ds) ks) :
    CutsInto (cs ++ c :: ds) (ls ++ ks) := by
  intro rest position hDigit₂ hLetter₂
  rcases hFirst (c :: ds ++ rest) position
      (.cons hDigit _) (.cons hLetter _) with
    ⟨ts, rfl, hTokens⟩
  rcases hSecond rest (position + cs.length) hDigit₂
      hLetter₂ with
    ⟨us, rfl, hTokens₂⟩
  refine ⟨ts ++ us, List.map_append, ?_⟩
  rw [List.append_assoc, hTokens, hTokens₂, inFront_inFront,
    List.length_append, Nat.add_assoc]

/- A text by itself is cut into the lexemes. -/
theorem tokens_eq
    (h : CutsInto cs ls) :
    ∃ ts, tokens (String.ofList cs) = .ok ts ∧
      ts.map Token.lexeme = ls := by
  rcases h [] 0 (.nil _) (.nil _) with ⟨ts, hMap, hTokens⟩
  refine ⟨ts, ?_, hMap⟩
  rw [List.append_nil] at hTokens
  rw [tokens, String.toList_ofList, hTokens, inFront_end]

/- It is cut into no others. -/
theorem unique
    (hFirst : CutsInto cs ls)
    (hSecond : CutsInto cs ks) :
    ls = ks := by
  rcases hFirst.tokens_eq with ⟨ts, hTokens, rfl⟩
  rcases hSecond.tokens_eq with ⟨us, hTokens₂, rfl⟩
  rw [hTokens] at hTokens₂
  cases hTokens₂
  rfl

end CutsInto

end Termwise
