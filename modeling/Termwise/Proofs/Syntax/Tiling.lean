import Termwise.Proofs.Syntax.Separation

/-
  The tokens of a text tile it: they stand in it one after
  the other, what is left between them is blank, and no run
  of digits or letters is cut in two.  There are no other
  tokens that do.  A text without tokens has a character that
  may not stand in it.

  Key definitions include:
    * `Token.stop`
    * `Lexeme.SameRun`
    * `TilesFrom`
    * `Stray`

  Main declarations:
    * `tilesFrom_of_tokensFrom`
    * `tokensFrom_of_tilesFrom`
    * `tokensFrom_eq_error`
    * `tokens_tile`
-/

namespace Termwise

------------------------------------------------------------
-- Lexemes
------------------------------------------------------------

/- What starts a run is not blank. -/
theorem isBlank_eq_false_of_run
    {c : Char}
    (h : Text.isDigit c = true ∨ isLetter c = true) :
    Text.isBlank c = false := by
  apply Bool.eq_false_iff.mpr
  intro hBlank
  rcases not_run_of_isBlank hBlank with ⟨hDigit, hLetter⟩
  simp [hDigit, hLetter] at h

namespace Lexeme

/- A lexeme is a run of characters of one class. -/
def IsRun : Lexeme → Prop
| number _ => True
| name _ => True
| _ => False

/- Two lexemes are runs of characters of the same class. -/
def SameRun : Lexeme → Lexeme → Prop
| number _, number _ => True
| name _, name _ => True
| _, _ => False

/- What is no run is a single character. -/
theorem isRun_or_length_eq (l : Lexeme) :
    l.IsRun ∨ l.chars.length = 1 := by
  cases l with
  | number | name => exact .inl trivial
  | op | opening | closing => exact .inr rfl

/-
  A lexeme may begin with a character.  It is not blank, and
  with a digit begins a number, with a letter a name.
-/
structure BeginsWith
    (l : Lexeme)
    (c : Char) : Prop where
  first : l.chars.head? = some c
  visible : Text.isBlank c = false
  digit :
    Text.isDigit c = true → ∃ digits, l = number digits
  letter :
    isLetter c = true → ∃ letters, l = name letters

/- What stands for itself begins with itself. -/
theorem beginsWith_of_symbol?
    {c : Char}
    {l : Lexeme}
    (h : symbol? c = some l) :
    l.BeginsWith c := by
  rcases not_run_of_symbol? h with ⟨hDigit, hLetter, hBlank⟩
  refine ⟨?_, hBlank, ?_, ?_⟩
  · rw [(symbol?_eq_some h).1]
    rfl
  · simp [hDigit]
  · simp [hLetter]

/- Every lexeme begins with some character. -/
theorem exists_beginsWith
    {l : Lexeme}
    (h : l.WellSpelled) :
    ∃ c, l.BeginsWith c := by
  cases l with
  | number digits =>
      cases digits with
      | nil => exact absurd rfl h.1
      | cons c cs =>
          have hDigit := h.2 c List.mem_cons_self
          refine ⟨c, rfl, isBlank_eq_false_of_run (.inl hDigit),
            fun _ => ⟨_, rfl⟩, ?_⟩
          intro hLetter
          rw [isDigit_eq_false_of_isLetter hLetter] at hDigit
          cases hDigit
  | name letters =>
      cases letters with
      | nil => exact absurd rfl h.1
      | cons c cs =>
          have hLetter := h.2 c List.mem_cons_self
          refine ⟨c, rfl, isBlank_eq_false_of_run (.inr hLetter),
            ?_, fun _ => ⟨_, rfl⟩⟩
          intro hDigit
          rw [isDigit_eq_false_of_isLetter hLetter] at hDigit
          cases hDigit
  | op o => exact ⟨_, beginsWith_of_symbol? (symbol?_sign o)⟩
  | opening =>
      exact ⟨_, beginsWith_of_symbol? (c := '(') rfl⟩
  | closing =>
      exact ⟨_, beginsWith_of_symbol? (c := ')') rfl⟩

/- A lexeme is not empty. -/
theorem length_chars_pos
    {l : Lexeme}
    (h : l.WellSpelled) :
    0 < l.chars.length := by
  rcases exists_beginsWith h with ⟨c, hBegins⟩
  exact List.length_pos_of_mem
    (List.mem_of_mem_head? hBegins.first)

/- No run goes on in the lexeme behind it. -/
theorem EndsBefore.not_sameRun
    {l m : Lexeme}
    {rest : List Char}
    (hEnds : l.EndsBefore (m.chars ++ rest))
    (hSpelled : m.WellSpelled) :
    ¬ l.SameRun m := by
  rcases exists_beginsWith hSpelled with ⟨c, hBegins⟩
  have hFirst : c ∈ (m.chars ++ rest).head? := by
    rw [List.head?_append, hBegins.first]
    rfl
  have hMem := List.mem_of_mem_head? hBegins.first
  intro hSame
  cases l with
  | number =>
      cases m with
      | number digits =>
          have hDigit := hSpelled.2 c hMem
          rw [hEnds c hFirst] at hDigit
          cases hDigit
      | name | op | opening | closing => exact hSame
  | name =>
      cases m with
      | name letters =>
          have hLetter := hSpelled.2 c hMem
          rw [hEnds c hFirst] at hLetter
          cases hLetter
      | number | op | opening | closing => exact hSame
  | op | opening | closing => exact hSame

/-
  A lexeme is as long as it can be if no lexeme that follows
  it at once is a run of the same class.
-/
theorem endsBefore_of_not_sameRun
    {l : Lexeme}
    {rest : List Char}
    (h : ∀ c ∈ rest.head?, Text.isBlank c = false →
      ∃ m : Lexeme, m.BeginsWith c ∧ ¬ l.SameRun m) :
    l.EndsBefore rest := by
  cases l with
  | number =>
      intro c hc
      apply Bool.eq_false_iff.mpr
      intro hDigit
      rcases h c hc (isBlank_eq_false_of_run (.inl hDigit)) with
        ⟨m, hBegins, hOther⟩
      rcases hBegins.digit hDigit with ⟨digits, rfl⟩
      exact hOther trivial
  | name =>
      intro c hc
      apply Bool.eq_false_iff.mpr
      intro hLetter
      rcases h c hc (isBlank_eq_false_of_run (.inr hLetter)) with
        ⟨m, hBegins, hOther⟩
      rcases hBegins.letter hLetter with ⟨letters, rfl⟩
      exact hOther trivial
  | op | opening | closing => trivial

end Lexeme

------------------------------------------------------------
-- Tilings
------------------------------------------------------------

namespace Token

/- The position behind a token. -/
def stop (token : Token) : Nat :=
  token.position + token.lexeme.chars.length

/- A token covers a position. -/
def Covers (token : Token) (i : Nat) : Prop :=
  token.position ≤ i ∧ i < token.stop

end Token

/-
  Tokens tile a text from a position on.

    * `within`: no token stands in front of the position.
    * `ordered`: each token ends before the next one starts.
    * `slice`: a token has the characters that the text has
      from the start of the token to its end.
    * `spelled`: a number consists of digits, and a name of
      letters.
    * `single`: signs and parentheses take one position each.
    * `blank`: what no token covers is blank.
    * `apart`: between two numbers, and between two names, is
      a gap.
-/
structure TilesFrom
    (text : List Char)
    (start : Nat)
    (ts : List Token) : Prop where
  within : ∀ token ∈ ts, start ≤ token.position
  ordered :
    ts.Pairwise fun a b =>
      a.position < b.position ∧ a.stop ≤ b.position
  slice :
    ∀ token ∈ ts,
      token.lexeme.chars =
        text.extract token.position token.stop
  spelled : ∀ token ∈ ts, token.lexeme.WellSpelled
  single :
    ∀ token ∈ ts,
      token.lexeme.IsRun ∨ token.stop = token.position + 1
  blank :
    ∀ i c, start ≤ i → text[i]? = some c →
      (∀ token ∈ ts, ¬ token.Covers i) →
      Text.isBlank c = true
  apart :
    ∀ a ∈ ts, ∀ b ∈ ts, a.stop = b.position →
      ¬ a.lexeme.SameRun b.lexeme

namespace TilesFrom

variable {text : List Char} {start : Nat}

variable {ts : List Token} {token : Token}

------------------------------------------------------------
-- Building Tilings
------------------------------------------------------------

/- Behind the end of a text there is nothing to cover. -/
theorem nil (h : text.length ≤ start) :
    TilesFrom text start [] where
  within := List.forall_mem_nil _
  ordered := .nil
  slice := List.forall_mem_nil _
  spelled := List.forall_mem_nil _
  single := List.forall_mem_nil _
  blank := by
    intro i c hStart hc _
    rw [List.getElem?_eq_none (Nat.le_trans h hStart)] at hc
    cases hc
  apart := List.forall_mem_nil _

/- A blank character need not be covered. -/
theorem skip
    {c : Char}
    (h : TilesFrom text (start + 1) ts)
    (hc : text[start]? = some c)
    (hBlank : Text.isBlank c = true) :
    TilesFrom text start ts where
  within := fun token hMem =>
    Nat.le_of_succ_le (h.within token hMem)
  ordered := h.ordered
  slice := h.slice
  spelled := h.spelled
  single := h.single
  blank := by
    intro i d hStart hd hNone
    rcases Nat.eq_or_lt_of_le hStart with rfl | hLater
    · rw [hc] at hd
      cases hd
      exact hBlank
    · exact h.blank i d hLater hd hNone
  apart := h.apart

/- The text behind a token goes on where the token stops. -/
theorem drop_position
    (h : TilesFrom text start ts)
    (hMem : token ∈ ts) :
    text.drop token.position =
      token.lexeme.chars ++ text.drop token.stop := by
  have hSlice := h.slice token hMem
  rw [List.extract_eq_take_drop, Token.stop,
    Nat.add_sub_cancel_left] at hSlice
  have hSplit := List.take_append_drop
    token.lexeme.chars.length (text.drop token.position)
  rw [← hSlice, List.drop_drop] at hSplit
  exact hSplit.symm

/- A lexeme in front of tokens that tile the rest. -/
theorem cons
    {l : Lexeme}
    {rest : List Char}
    (hText : text.drop start = l.chars ++ rest)
    (hSpelled : l.WellSpelled)
    (hEnds : l.EndsBefore rest)
    (h : TilesFrom text (start + l.chars.length) ts) :
    TilesFrom text start (⟨l, start⟩ :: ts) := by
  have hPositive := l.length_chars_pos hSpelled
  have hStop : (⟨l, start⟩ : Token).stop =
      start + l.chars.length := rfl
  have hRest :
      text.drop (start + l.chars.length) = rest := by
    rw [← List.drop_drop, hText, List.drop_left]
  constructor
  · refine List.forall_mem_cons.mpr ⟨Nat.le_refl _, ?_⟩
    intro token hMem
    exact Nat.le_of_add_right_le (h.within token hMem)
  · refine .cons ?_ h.ordered
    intro token hMem
    have hWithin := h.within token hMem
    rw [hStop]
    exact ⟨by show start < token.position; omega, hWithin⟩
  · refine List.forall_mem_cons.mpr ⟨?_, h.slice⟩
    rw [List.extract_eq_take_drop, hStop,
      Nat.add_sub_cancel_left, hText, List.take_left]
  · exact List.forall_mem_cons.mpr ⟨hSpelled, h.spelled⟩
  · refine List.forall_mem_cons.mpr ⟨?_, h.single⟩
    rcases l.isRun_or_length_eq with hRun | hSingle
    · exact .inl hRun
    · rw [hStop, hSingle]
      exact .inr rfl
  · intro i c hStart hc hNone
    rcases List.forall_mem_cons.mp hNone with ⟨hFirst, hLater⟩
    apply h.blank i c _ hc hLater
    apply Nat.not_lt.mp
    intro hInside
    exact hFirst ⟨hStart, hInside⟩
  · intro a ha b hb hMeet
    rcases List.mem_cons.mp ha with rfl | hLater
    · rcases List.mem_cons.mp hb with rfl | hLater₂
      · have hSame : start + l.chars.length = start := hMeet
        omega
      · have hDrop := h.drop_position hLater₂
        rw [← hMeet, hStop, hRest] at hDrop
        rw [hDrop] at hEnds
        exact hEnds.not_sameRun (h.spelled b hLater₂)
    · rcases List.mem_cons.mp hb with rfl | hLater₂
      · have hWithin := h.within a hLater
        have hBefore :
            a.position + a.lexeme.chars.length = start := hMeet
        omega
      · exact h.apart a hLater b hLater₂ hMeet

------------------------------------------------------------
-- Taking Tilings Apart
------------------------------------------------------------

/- A token begins with the character at its position. -/
theorem exists_beginsWith
    (h : TilesFrom text start ts)
    (hMem : token ∈ ts) :
    ∃ c, text[token.position]? = some c ∧
      token.lexeme.BeginsWith c := by
  rcases Lexeme.exists_beginsWith (h.spelled token hMem) with
    ⟨c, hBegins⟩
  refine ⟨c, ?_, hBegins⟩
  rw [← List.head?_drop, h.drop_position hMem,
    List.head?_append, hBegins.first]
  rfl

/- What tiles nothing is nothing. -/
theorem eq_nil
    (h : TilesFrom text start ts)
    (hEnd : text.length ≤ start) :
    ts = [] := by
  apply List.eq_nil_iff_forall_not_mem.mpr
  intro token hMem
  rcases h.exists_beginsWith hMem with ⟨c, hc, _⟩
  have hWithin := h.within token hMem
  rw [List.getElem?_eq_none (Nat.le_trans hEnd hWithin)] at hc
  cases hc

/- No token starts at a blank character. -/
theorem of_blank
    {c : Char}
    (h : TilesFrom text start ts)
    (hc : text[start]? = some c)
    (hBlank : Text.isBlank c = true) :
    TilesFrom text (start + 1) ts where
  within := by
    intro token hMem
    apply Nat.lt_of_le_of_ne (h.within token hMem)
    intro hSame
    rcases h.exists_beginsWith hMem with ⟨d, hd, hBegins⟩
    rw [← hSame, hc] at hd
    cases hd
    rw [hBegins.visible] at hBlank
    cases hBlank
  ordered := h.ordered
  slice := h.slice
  spelled := h.spelled
  single := h.single
  blank := fun i d hStart =>
    h.blank i d (Nat.le_of_succ_le hStart)
  apart := h.apart

/- At any other character the first token starts. -/
theorem exists_cons
    {c : Char}
    (h : TilesFrom text start ts)
    (hc : text[start]? = some c)
    (hVisible : Text.isBlank c = false) :
    ∃ l us, ts = ⟨l, start⟩ :: us := by
  have hCovered : ∃ token ∈ ts, token.Covers start := by
    apply Classical.byContradiction
    intro hNone
    have hBlank := h.blank start c (Nat.le_refl _) hc
      fun token hMem hCovers => hNone ⟨token, hMem, hCovers⟩
    rw [hVisible] at hBlank
    cases hBlank
  rcases hCovered with ⟨token, hMem, hBefore, _⟩
  cases ts with
  | nil => cases hMem
  | cons first us =>
      have hFirst := h.within first List.mem_cons_self
      have hOrdered := (List.pairwise_cons.mp h.ordered).1
      have hPosition : first.position = start := by
        rcases List.mem_cons.mp hMem with rfl | hLater
        · exact Nat.le_antisymm hBefore hFirst
        · have hNext := (hOrdered token hLater).1
          omega
      refine ⟨first.lexeme, us, ?_⟩
      rw [← hPosition]

section Tail

variable {l : Lexeme} {us : List Token}

variable (h : TilesFrom text start (⟨l, start⟩ :: us))

include h

/- Behind the first token the others tile the text. -/
theorem tail :
    TilesFrom text (start + l.chars.length) us where
  within := fun token hMem =>
    ((List.pairwise_cons.mp h.ordered).1 token hMem).2
  ordered := (List.pairwise_cons.mp h.ordered).2
  slice := (List.forall_mem_cons.mp h.slice).2
  spelled := (List.forall_mem_cons.mp h.spelled).2
  single := (List.forall_mem_cons.mp h.single).2
  blank := by
    intro i c hStart hc hNone
    apply h.blank i c (Nat.le_of_add_right_le hStart) hc
    refine List.forall_mem_cons.mpr ⟨?_, hNone⟩
    intro hCovers
    exact Nat.not_lt.mpr hStart hCovers.2
  apart := fun a ha b hb =>
    h.apart a (List.mem_cons_of_mem _ ha) b
      (List.mem_cons_of_mem _ hb)

/-
  The first token is as long as it can be.  Else the run went
  on in a token that is not apart from it.
-/
theorem endsBefore :
    l.EndsBefore (text.drop (start + l.chars.length)) := by
  apply Lexeme.endsBefore_of_not_sameRun
  intro c hc hVisible
  rw [List.head?_drop] at hc
  rcases h.tail.exists_cons hc hVisible with ⟨m, vs, rfl⟩
  have hMem : (⟨m, start + l.chars.length⟩ : Token) ∈
      ⟨l, start⟩ :: ⟨m, start + l.chars.length⟩ :: vs :=
    List.mem_cons_of_mem _ List.mem_cons_self
  rcases h.exists_beginsWith hMem with ⟨d, hd, hBegins⟩
  rw [show text[start + l.chars.length]? = some c from hc]
    at hd
  cases hd
  exact ⟨m, hBegins, h.apart _ List.mem_cons_self _ hMem rfl⟩

end Tail

end TilesFrom

------------------------------------------------------------
-- Tokens of a Text
------------------------------------------------------------

/- The tokens of a text tile it. -/
theorem tilesFrom_of_tokensFrom
    {text rest : List Char}
    {start : Nat}
    {ts : List Token}
    (hText : text.drop start = rest)
    (h : tokensFrom start rest = .ok ts) :
    TilesFrom text start ts := by
  induction scanned rest generalizing start ts with
  | nil =>
      rw [tokensFrom] at h
      cases h
      exact .nil (List.drop_eq_nil_iff.mp hText)
  | @lexeme l rest hSpelled hEnds _ ih =>
      rw [tokensFrom_lexeme hSpelled hEnds, inFront,
        map_eq_ok] at h
      rcases h with ⟨us, hRest, rfl⟩
      apply TilesFrom.cons hText hSpelled hEnds
      apply ih _ hRest
      rw [← List.drop_drop, hText, List.drop_left]
  | @blank c rest hBlank _ ih =>
      rw [tokensFrom_blank hBlank] at h
      apply (ih _ h).skip _ hBlank
      · rw [← List.drop_drop, hText]
        rfl
      · rw [← List.head?_drop, hText]
        rfl
  | stray hStray =>
      rw [tokensFrom_stray hStray] at h
      cases h

/-
  Tokens that tile a text are those that it is cut into.  The
  induction is on what is left of the text.
-/
theorem tokensFrom_of_tilesFrom
    {text : List Char}
    {start : Nat}
    {ts : List Token}
    (h : TilesFrom text start ts) :
    tokensFrom start (text.drop start) = .ok ts := by
  cases hText : text.drop start with
  | nil =>
      rw [h.eq_nil (List.drop_eq_nil_iff.mp hText), tokensFrom]
  | cons c cs =>
      have hc : text[start]? = some c := by
        rw [← List.head?_drop, hText]
        rfl
      have hBound : start < text.length :=
        (List.getElem?_eq_some_iff.mp hc).1
      cases hBlank : Text.isBlank c with
      | true =>
          have hRest : text.drop (start + 1) = cs := by
            rw [← List.drop_drop, hText]
            rfl
          rw [tokensFrom_blank hBlank, ← hRest]
          exact tokensFrom_of_tilesFrom (h.of_blank hc hBlank)
      | false =>
          rcases h.exists_cons hc hBlank with ⟨l, us, rfl⟩
          have hSpelled := h.spelled _ List.mem_cons_self
          have hPositive := l.length_chars_pos hSpelled
          have hSplit :
              text.drop start =
                l.chars ++ text.drop (start + l.chars.length) :=
            h.drop_position List.mem_cons_self
          rw [← hText, hSplit,
            tokensFrom_lexeme hSpelled h.endsBefore,
            tokensFrom_of_tilesFrom h.tail]
          rfl
termination_by text.length - start

------------------------------------------------------------
-- Faults of a Text
------------------------------------------------------------

/-
  A character may not stand in an expression: it is no digit
  and no letter of ASCII, it is not blank, and it is no sign
  and no parenthesis.
-/
def Stray (c : Char) : Prop :=
  Text.isDigit c = false ∧ isLetter c = false ∧
    Text.isBlank c = false ∧
    c ∉ ['+', '-', '*', '/', '(', ')']

/- The characters that stand for themselves. -/
theorem isSome_symbol?_iff (c : Char) :
    (Lexeme.symbol? c).isSome = true ↔
      c ∈ ['+', '-', '*', '/', '(', ')'] := by
  unfold Lexeme.symbol?
  split_ifs with hPlus hMinus hTimes hOver hOpen hClose
  all_goals simp [*]

/- These characters are all but those that may stand there. -/
theorem stray_iff (c : Char) : Stray c ↔ ¬ Legible c := by
  simp only [Stray, Legible, not_or, isSome_symbol?_iff,
    Bool.not_eq_true]

/- A text fails at the first character that is none of them. -/
theorem exists_stray_of_tokensFrom
    {text : List Char}
    {position : Nat}
    {f : SyntaxFault}
    (h : tokensFrom position text = .error f) :
    ∃ before c after, text = before ++ c :: after ∧
      (∀ d ∈ before, Legible d) ∧ ¬ Legible c ∧
      f = .strayCharacter c (position + before.length) := by
  induction scanned text generalizing position with
  | nil =>
      rw [tokensFrom] at h
      cases h
  | @lexeme l rest hSpelled hEnds _ ih =>
      rw [tokensFrom_lexeme hSpelled hEnds] at h
      cases hRest :
          tokensFrom (position + l.chars.length) rest with
      | ok ts =>
          rw [hRest] at h
          cases h
      | error g =>
          rw [hRest] at h
          cases h
          rcases ih hRest with
            ⟨before, c, after, rfl, hBefore, hStray, rfl⟩
          refine ⟨l.chars ++ before, c, after,
            (List.append_assoc _ _ _).symm, ?_, hStray, ?_⟩
          · exact List.forall_mem_append.mpr
              ⟨l.legible_of_mem_chars hSpelled, hBefore⟩
          · rw [List.length_append, Nat.add_assoc]
  | @blank c rest hBlank _ ih =>
      rw [tokensFrom_blank hBlank] at h
      rcases ih h with
        ⟨before, d, after, rfl, hBefore, hStray, rfl⟩
      refine ⟨c :: before, d, after, rfl, ?_, hStray, ?_⟩
      · exact List.forall_mem_cons.mpr
          ⟨.inr (.inr (.inl hBlank)), hBefore⟩
      · rw [List.length_cons, Nat.add_assoc, Nat.add_comm 1]
  | @stray c rest hStray =>
      rw [tokensFrom_stray hStray] at h
      cases h
      exact ⟨[], c, rest, rfl, List.forall_mem_nil _, hStray, rfl⟩

/- A text with nothing else has tokens. -/
theorem exists_tokensFrom_of_legible
    {text : List Char}
    (h : ∀ c ∈ text, Legible c)
    (position : Nat) :
    ∃ ts, tokensFrom position text = .ok ts := by
  cases hTokens : tokensFrom position text with
  | ok ts => exact ⟨ts, rfl⟩
  | error f =>
      rcases exists_stray_of_tokensFrom hTokens with
        ⟨before, c, after, rfl, _, hStray, _⟩
      apply absurd (h c _) hStray
      exact List.mem_append_right _ List.mem_cons_self

/- The first character that may not stand in a text. -/
theorem tokensFrom_eq_error
    {text : List Char}
    {position : Nat}
    {f : SyntaxFault} :
    tokensFrom position text = .error f ↔
      ∃ before c after, text = before ++ c :: after ∧
        (∀ d ∈ before, Legible d) ∧ ¬ Legible c ∧
        f = .strayCharacter c (position + before.length) := by
  constructor
  · exact exists_stray_of_tokensFrom
  · rintro ⟨before, c, after, rfl, hBefore, hStray, rfl⟩
    rcases exists_tokensFrom_of_legible hBefore position with
      ⟨ts, hTokens⟩
    have hNone := hStray
    simp only [Legible, not_or, Bool.not_eq_true] at hNone
    rw [tokensFrom_append (.cons hNone.1 _)
        (.cons hNone.2.1 _), hTokens, tokensFrom_stray hStray]
    rfl

/-
  A text fails to be cut into tokens just if it has a
  character that may not stand in it.  The first of them and
  its position are what the fault tells.  Otherwise the tokens
  are the only ones that tile the text.
-/
theorem tokens_tile (text : String) :
    ((∃ f, tokens text = .error f) ↔
      ∃ c ∈ text.toList, Stray c) ∧
    (∀ f, tokens text = .error f ↔
      ∃ before c after, text.toList = before ++ c :: after ∧
        (∀ d ∈ before, ¬ Stray d) ∧ Stray c ∧
        f = .strayCharacter c before.length ∧
        f.found = some (String.ofList [c]) ∧
        f.position = some before.length) ∧
    ∀ ts, tokens text = .ok ts ↔
      TilesFrom text.toList 0 ts := by
  refine ⟨?_, ?_, ?_⟩
  · constructor
    · rintro ⟨f, hFault⟩
      rcases exists_stray_of_tokensFrom hFault with
        ⟨before, c, after, hText, _, hStray, _⟩
      refine ⟨c, ?_, (stray_iff c).mpr hStray⟩
      rw [hText]
      exact List.mem_append_right _ List.mem_cons_self
    · rintro ⟨c, hMem, hStray⟩
      cases hTokens : tokens text with
      | error f => exact ⟨f, rfl⟩
      | ok ts =>
          have hLegible := legible_of_tokensFrom hTokens c hMem
          exact absurd hLegible ((stray_iff c).mp hStray)
  · intro f
    rw [tokens, tokensFrom_eq_error]
    simp only [stray_iff, Classical.not_not, Nat.zero_add]
    constructor
    · rintro ⟨before, c, after, hText, hBefore, hStray, rfl⟩
      exact ⟨before, c, after, hText, hBefore, hStray, rfl,
        rfl, rfl⟩
    · rintro ⟨before, c, after, hText, hBefore, hStray, hSame,
        _⟩
      exact ⟨before, c, after, hText, hBefore, hStray, hSame⟩
  · intro ts
    constructor
    · exact tilesFrom_of_tokensFrom List.drop_zero
    · exact tokensFrom_of_tilesFrom

end Termwise
