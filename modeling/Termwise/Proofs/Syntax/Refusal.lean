import Mathlib.Data.List.Basic
import Termwise.Proofs.Print.Rereading
import Termwise.Proofs.Syntax.Blame
import Termwise.Proofs.Syntax.Tiling

/-
  A text that is refused is refused at the first token with
  which it is no longer the start of an expression, or the
  start of one within the limits.

  Key definitions include:
    * `StandsAmong`

  Main declarations:
    * `standsAmong_of_tokens`
    * `parse_eq_error`
    * `blame_of_parse`
-/

namespace Termwise

------------------------------------------------------------
-- Positions
------------------------------------------------------------

/-
  A token of a text stands between the tokens that start
  before its position and those that start behind it.
-/
structure StandsAmong
    (token : Token)
    (before after ts : List Token) : Prop where
  all : ts = before ++ token :: after
  earlier : ∀ b ∈ before, b.position < token.position
  later : ∀ a ∈ after, token.position < a.position

/- Where tokens are cut from a text, positions tell places. -/
theorem standsAmong_of_tokens
    {text : String}
    {token : Token}
    {before after ts : List Token}
    (hTokens : tokens text = .ok ts)
    (hSplit : ts = before ++ token :: after) :
    StandsAmong token before after ts := by
  have hTiles : TilesFrom text.toList 0 ts :=
    tilesFrom_of_tokensFrom List.drop_zero hTokens
  have hOrdered := hTiles.ordered
  rw [hSplit, List.pairwise_append] at hOrdered
  rcases hOrdered with ⟨_, hAfter, hAcross⟩
  refine ⟨hSplit, ?_, ?_⟩
  · intro b hb
    exact (hAcross b hb token List.mem_cons_self).1
  · intro a ha
    exact ((List.pairwise_cons.mp hAfter).1 a ha).1

------------------------------------------------------------
-- Texts
------------------------------------------------------------

/- A lexeme that stops a reading ends all expressions. -/
theorem not_extendable_of_next
    {before : List Token}
    {token : Token}
    {s : Stage}
    (hRun :
      Stage.start.run (before.map Token.lexeme) = some s)
    (hNext : s.next token.lexeme = none) :
    ¬ Extendable ((before ++ [token]).map Token.lexeme) := by
  intro hExtendable
  rcases extendable_iff.mp hExtendable with ⟨s₁, hThrough⟩
  rw [List.map_append, Stage.run_append, hRun] at hThrough
  change (s.next token.lexeme).bind _ = some s₁ at hThrough
  rw [hNext] at hThrough
  cases hThrough

/- A fault of a text is one of its tokens, or of its tree. -/
theorem parse_eq_error
    {text : String}
    {ts : List Token}
    {f : SyntaxFault}
    (hTokens : tokens text = .ok ts)
    (h : parse text = .error f) :
    parseTokens ts = .error f ∨ f = .deep := by
  rw [parse_eq_bind, hTokens] at h
  rcases bind_eq_error.mp h with
    hTokensFault | ⟨us, hSame, hRest⟩
  · cases hTokensFault
  · cases hSame
    rcases bind_eq_error.mp hRest with
      hParsed | ⟨t, _, hMeasured⟩
    · exact .inl hParsed
    · by_cases hDepth : t.depth ≤ depthLimit
      · rw [if_pos hDepth] at hMeasured
        cases hMeasured
      · rw [if_neg hDepth] at hMeasured
        cases hMeasured
        exact .inr rfl

/-
  Tokens of a text that is refused, none of them too long a
  number.

  If the fault has a position and is not that there are too
  many levels, the token there is what was found.  The
  tokens in front of it are the start of an expression, but
  with it they are not.

  If the text ended too early, its tokens are no expression,
  but the start of a longer one.

  If there are too many levels at a position, the tokens up
  to there are the start of an expression, and the token
  there is the first behind which more minus signs and
  parentheses are open than may be.
-/
theorem blame_of_parse
    {text : String}
    {ts : List Token}
    {f : SyntaxFault}
    (hTokens : tokens text = .ok ts)
    (hShort : ∀ token ∈ ts, token.lexeme.Short)
    (hFault : parse text = .error f) :
    (∀ p, f.position = some p → ¬ f.TooDeep →
      ∃ before token after,
        StandsAmong token before after ts ∧
        token.position = p ∧
        f.found = some token.lexeme.text ∧
        Extendable (before.map Token.lexeme) ∧
        ¬ Extendable ((before ++ [token]).map Token.lexeme)) ∧
    (∀ e, f = .cutShort e →
      ¬ Grammatical (ts.map Token.lexeme) ∧
        ∃ rest, rest ≠ [] ∧
          Grammatical (ts.map Token.lexeme ++ rest)) ∧
    (∀ p, f.position = some p → f.TooDeep →
      ∃ before token after,
        StandsAmong token before after ts ∧
        token.position = p ∧
        Extendable ((before ++ [token]).map Token.lexeme) ∧
        openings ((before ++ [token]).map Token.lexeme) =
          depthLimit + 1 ∧
        ∀ ls, ls <+: before.map Token.lexeme →
          openings ls ≤ depthLimit) := by
  refine ⟨?_, ?_, ?_⟩
  · intro p hPosition hNot
    rcases parse_eq_error hTokens hFault with hRead | rfl
    · have hBlames := parseTokens_blames hRead hShort
      cases f with
      | noOperand token | unclosed token | trailing token =>
          cases hPosition
          rcases hBlames with
            ⟨before, after, s, hSplit, hRun, hNext⟩
          exact ⟨before, token, after,
            standsAmong_of_tokens hTokens hSplit, rfl, rfl,
            extendable_iff.mpr ⟨s, hRun⟩,
            not_extendable_of_next hRun hNext⟩
      | nested | deep => exact absurd trivial hNot
      | cutShort => cases hPosition
      | strayCharacter | longNumber => exact hBlames.elim
    · cases hPosition
  · rintro e rfl
    rcases parse_eq_error hTokens hFault with hRead | hDeep
    · rcases parseTokens_blames hRead hShort with
        ⟨s, hRun, hFinal⟩
      have hNot : ¬ Grammatical (ts.map Token.lexeme) := by
        intro hGrammatical
        rcases grammatical_iff.mp hGrammatical with
          ⟨sum, product, hComplete⟩
        rw [hRun] at hComplete
        exact hFinal sum product (Option.some.inj hComplete)
      rcases extendable_iff.mpr ⟨s, hRun⟩ with ⟨rest, hAll⟩
      refine ⟨hNot, rest, ?_, hAll⟩
      rintro rfl
      rw [List.append_nil] at hAll
      exact hNot hAll
    · cases hDeep
  · intro p hPosition hDeep
    rcases parse_eq_error hTokens hFault with hRead | rfl
    · have hBlames := parseTokens_blames hRead hShort
      cases f with
      | nested token =>
          cases hPosition
          rcases hBlames with
            ⟨before, after, s, hSplit, hRun, hWithin, hCount⟩
          refine ⟨before, token, after,
            standsAmong_of_tokens hTokens hSplit, rfl,
            extendable_iff.mpr ⟨s, hRun⟩, ?_, hWithin⟩
          rw [Stage.opened_run hRun] at hCount
          exact hCount
      | deep => cases hPosition
      | noOperand | unclosed | trailing | cutShort
      | strayCharacter | longNumber => exact hDeep.elim
    · cases hPosition

/-
  A parenthesis that closes too early is blamed, a sum that
  is not closed may go on, and of too many signs in a row
  the first that is one too many is blamed.
-/
theorem blame_of_parse_kinds :
    (∃ ts before token after,
      tokens "2 * (x + ) - 1" = .ok ts ∧
      (∀ token ∈ ts, token.lexeme.Short) ∧
      parse "2 * (x + ) - 1" =
        .error (.noOperand ⟨.closing, 9⟩) ∧
      StandsAmong token before after ts ∧
      token.position = 9 ∧ token.lexeme.text = ")" ∧
      Extendable (before.map Token.lexeme) ∧
      ¬ Extendable ((before ++ [token]).map Token.lexeme)) ∧
    (∃ ts, tokens "(1 + 2" = .ok ts ∧
      (∀ token ∈ ts, token.lexeme.Short) ∧
      parse "(1 + 2" = .error (.cutShort .closing) ∧
      ¬ Grammatical (ts.map Token.lexeme) ∧
      ∃ rest, rest ≠ [] ∧
        Grammatical (ts.map Token.lexeme ++ rest)) ∧
    ∃ text ts f before token after,
      text = String.ofList (List.replicate 151 '-' ++ ['x']) ∧
      tokens text = .ok ts ∧
      (∀ token ∈ ts, token.lexeme.Short) ∧
      parse text = .error f ∧ f.TooDeep ∧
      StandsAmong token before after ts ∧
      f.position = some token.position ∧
      openings ((before ++ [token]).map Token.lexeme) = 151 ∧
      ∀ ls, ls <+: before.map Token.lexeme →
        openings ls ≤ 150 := by
  refine ⟨?_, ?_, ?_⟩
  · have hTokens :
        tokens "2 * (x + ) - 1" =
          .ok [⟨.number ['2'], 0⟩, ⟨.op .mul, 2⟩,
            ⟨.opening, 4⟩, ⟨.name ['x'], 5⟩, ⟨.op .add, 7⟩,
            ⟨.closing, 9⟩, ⟨.op .sub, 11⟩,
            ⟨.number ['1'], 13⟩] := by
      cbv
    have hShort :
        ∀ token ∈ [⟨.number ['2'], 0⟩, ⟨.op .mul, 2⟩,
            ⟨.opening, 4⟩, ⟨.name ['x'], 5⟩, ⟨.op .add, 7⟩,
            ⟨.closing, 9⟩, ⟨.op .sub, 11⟩,
            (⟨.number ['1'], 13⟩ : Token)],
          token.lexeme.Short := by
      simp [Lexeme.Short, Text.digitLimit]
    have hFault :
        parse "2 * (x + ) - 1" =
          .error (.noOperand ⟨.closing, 9⟩) := by
      cbv
    rcases (blame_of_parse hTokens hShort hFault).1 9 rfl
        (fun h => h) with
      ⟨before, token, after, hStands, hPosition, hFound,
        hStart, hNot⟩
    exact ⟨_, before, token, after, hTokens, hShort, hFault,
      hStands, hPosition, (Option.some.inj hFound).symm,
      hStart, hNot⟩
  · have hTokens :
        tokens "(1 + 2" =
          .ok [⟨.opening, 0⟩, ⟨.number ['1'], 1⟩,
            ⟨.op .add, 3⟩, ⟨.number ['2'], 5⟩] := by
      cbv
    have hShort :
        ∀ token ∈ [⟨.opening, 0⟩, ⟨.number ['1'], 1⟩,
            ⟨.op .add, 3⟩, (⟨.number ['2'], 5⟩ : Token)],
          token.lexeme.Short := by
      simp [Lexeme.Short, Text.digitLimit]
    have hFault :
        parse "(1 + 2" = .error (.cutShort .closing) := by
      cbv
    rcases (blame_of_parse hTokens hShort hFault).2.1 _ rfl with
      ⟨hNot, hLonger⟩
    exact ⟨_, hTokens, hShort, hFault, hNot, hLonger⟩
  · have hWord : IsWord "x" := by decide
    have hName : CutsInto "x".toList [.name "x".toList] :=
      .name hWord.1 hWord.2
    rcases (hName.signed 151).tokens_eq with
      ⟨ts, hTokens, hLexemes⟩
    have hDerives :=
      ((Derives.name "x".toList).signed 151).factor.term
    have hAll := short_signs 151 "x".toList
    rw [← hLexemes] at hDerives hAll
    have hShort := List.forall_mem_map.mp hAll
    rcases parseTokens_eq_nested hShort hDerives (by decide)
      with ⟨token, hRead⟩
    have hFault :
        parse (String.ofList
          (List.replicate 151 '-' ++ "x".toList)) =
          .error (.nested token) := by
      rw [parse_eq_bind, hTokens]
      show (parseTokens ts >>= _) = _
      rw [hRead]
      rfl
    rcases (blame_of_parse hTokens hShort hFault).2.2 _ rfl
        trivial with
      ⟨before, found, after, hStands, hPosition, _, hOver,
        hFirst⟩
    exact ⟨_, ts, _, before, found, after, rfl, hTokens,
      hShort, hFault, trivial, hStands,
      congrArg some hPosition.symm, hOver, hFirst⟩

end Termwise
