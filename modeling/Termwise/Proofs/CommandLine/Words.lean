import Termwise.Proofs.CommandLine.Number
import Termwise.Proofs.Reduction.Equations

/-
  What the words of a comparison are taken for.  Integers are
  ordinary words, with or without a sign.  An expression is
  an ordinary word, too, unless it starts with a hyphen: then
  it may spell a flag, or be short for one, or be unknown.

  Key definitions include:
    * `CommandLine.isOrdinary`

  Main declarations:
    * `Scope.kindOf_of_head`
    * `Scope.kindOf_integer`
    * `Spelling.candidates_long`
    * `Scope.kindOf_expression`
-/

namespace Termwise

------------------------------------------------------------
-- Words Without a Hyphen in Front
------------------------------------------------------------

/- A word that does not start with a hyphen is ordinary. -/
theorem Scope.kindOf_of_head
    {word : String}
    (s : Scope)
    (h : word.toList.head? ≠ some '-') :
    s.kindOf word = .plain := by
  unfold kindOf
  split
  · next rest hChars =>
      rw [hChars] at h
      exact absurd rfl h
  · rfl

------------------------------------------------------------
-- Spellings of a Comparison
------------------------------------------------------------

namespace Spelling

/- The flags of a comparison. -/
abbrev equivFlags : List Flag :=
  (Scope.command .equiv).flags

/- Their spellings. -/
theorem all_equivFlags :
    all equivFlags =
      [("-h", .help), ("--help", .help), ("--seed", .seed),
       ("--trials", .trials)] := rfl

/- What is not among the spellings spells no flag. -/
theorem flag?_eq_none
    {flags : List Flag}
    {cs : List Char}
    (h : ∀ p ∈ all flags, cs ≠ p.1.toList) :
    flag? flags cs = none := by
  rw [flag?, List.lookup_eq_none_iff]
  intro p hp
  rw [bne_iff_ne]
  intro hSame
  refine h p hp ?_
  rw [← hSame, String.toList_ofList]

/- What spells a flag is among the spellings. -/
theorem mem_of_flag?
    {flags : List Flag}
    {cs : List Char}
    {f : Flag}
    (h : flag? flags cs = some f) :
    (String.ofList cs, f) ∈ all flags := by
  rcases List.lookup_eq_some_iff.mp h with
    ⟨before, after, hAll, _⟩
  rw [hAll]
  exact List.mem_append_right _ List.mem_cons_self

/- No spelling has a blank in it. -/
theorem blank_notMem_spelling :
    ∀ p ∈ all equivFlags, ' ' ∉ p.1.toList := by
  rw [all_equivFlags]
  decide

/- Only one letter after a hyphen spells a flag. -/
theorem flag?_short
    {c : Char}
    {rest : List Char}
    (hHelp : c ≠ 'h')
    (hHyphen : c ≠ '-') :
    flag? equivFlags ('-' :: c :: rest) = none := by
  refine flag?_eq_none ?_
  rw [all_equivFlags]
  simp [hHelp, hHyphen]

/- No word without a sign of equality has a value. -/
theorem equated?_eq_none
    {cs : List Char}
    (flags : List Flag)
    (h : '=' ∉ cs) :
    equated? flags cs = none := by
  have hAll : cs.dropWhile (· != '=') = [] := by
    rw [List.dropWhile_eq_nil_iff]
    intro c hc
    rw [bne_iff_ne]
    rintro rfl
    exact h hc
  simp only [equated?, equatedPart, hAll]

/- A line break is cut off behind a hyphen only. -/
theorem withoutBreak_hyphen (rest : List Char) :
    ∃ more, withoutBreak ('-' :: rest) = '-' :: more := by
  unfold withoutBreak
  split
  · cases rest with
    | nil =>
        next hLast => cases hLast
    | cons c rest => exact ⟨_, rfl⟩
  · exact ⟨rest, rfl⟩

/- Two hyphens do not start a negative number. -/
theorem isNegative_hyphen (rest : List Char) :
    isNegative ('-' :: '-' :: rest) = false := by
  rcases withoutBreak_hyphen rest with ⟨more, hMore⟩
  rw [isNegative, hMore]
  rfl

/- The stem of a word without a sign of equality is all of it. -/
theorem stem_eq
    {cs : List Char}
    (h : '=' ∉ cs) :
    stem cs = cs := by
  rw [stem, List.takeWhile_eq_self_iff]
  intro c hc
  rw [bne_iff_ne]
  rintro rfl
  exact h hc

/- A word with one hyphen is short by its first letter. -/
theorem candidates_short
    {flags : List Flag}
    {c : Char}
    {rest : List Char}
    (hHyphen : c ≠ '-') :
    candidates flags ('-' :: c :: rest) =
      match flag? flags ['-', c] with
      | some f =>
          [(String.ofList ['-', c], ⟨f, .joined rest⟩)]
      | none => [] := by
  unfold candidates
  split
  · next hSame =>
      cases hSame
      exact absurd rfl hHyphen
  · next hSame =>
      cases hSame
      rfl
  · next hNeither => exact absurd rfl (hNeither c rest)

/- Of things that exclude each other one at most is chosen. -/
theorem filter_cases
    {α : Type}
    {p : α → Bool}
    {l : List α}
    (h : l.Pairwise fun a b => p a = true → p b = false) :
    l.filter p = [] ∨
      ∃ a ∈ l, p a = true ∧ l.filter p = [a] := by
  induction l with
  | nil => exact .inl rfl
  | cons a rest ih =>
      rcases List.pairwise_cons.mp h with ⟨hFirst, hRest⟩
      cases ha : p a with
      | false =>
          rw [List.filter_cons_of_neg (by rw [ha]; decide)]
          rcases ih hRest with hNone | ⟨b, hb, hOne⟩
          · exact .inl hNone
          · exact .inr ⟨b, .tail _ hb, hOne⟩
      | true =>
          have hNone : rest.filter p = [] := by
            rw [List.filter_eq_nil_iff]
            intro b hb
            rw [hFirst b hb ha]
            decide
          rw [List.filter_cons_of_pos ha, hNone]
          exact .inr ⟨a, .head _, ha, rfl⟩

/-
  A word with two hyphens is short for one spelling at most,
  since no two of them go on with the same letter.
-/
theorem candidates_long
    {c : Char}
    {rest : List Char}
    (h : '=' ∉ '-' :: '-' :: c :: rest) :
    candidates equivFlags ('-' :: '-' :: c :: rest) = [] ∨
      ∃ s hit,
        candidates equivFlags ('-' :: '-' :: c :: rest) =
          [(s, hit)] ∧
        '-' :: '-' :: c :: rest <+: s.toList ∧
        ' ' ∉ s.toList := by
  have hThird : ∀ a : String × Flag,
      ('-' :: '-' :: c :: rest).isPrefixOf a.1.toList =
        true →
      a.1.toList[2]? = some c := fun a ha =>
    List.prefix_iff_getElem?.mp
      (List.isPrefixOf_iff_prefix.mp ha) 2 (by simp)
  have hDiffer :
      (all equivFlags).Pairwise fun a b =>
        a.1.toList[2]? ≠ b.1.toList[2]? := by
    rw [all_equivFlags]
    decide
  have hExclusive :
      (all equivFlags).Pairwise fun a b =>
        ('-' :: '-' :: c :: rest).isPrefixOf a.1.toList =
            true →
          ('-' :: '-' :: c :: rest).isPrefixOf b.1.toList =
            false :=
    hDiffer.imp fun hOther ha => Bool.eq_false_iff.mpr
      fun hb => hOther ((hThird _ ha).trans (hThird _ hb).symm)
  rw [candidates, stem_eq h]
  rcases filter_cases hExclusive with
    hNone | ⟨⟨s, f⟩, hMem, hStart, hOne⟩
  · left
    rw [hNone]
    rfl
  · right
    refine ⟨s, ⟨f, equatedPart (c :: rest)⟩, ?_,
      List.isPrefixOf_iff_prefix.mp hStart,
      blank_notMem_spelling _ hMem⟩
    rw [hOne]
    rfl

end Spelling

------------------------------------------------------------
-- Expressions
------------------------------------------------------------

/-
  An expression does not start with a hyphen, or it looks
  like a negative number, or it has a blank in it and does
  not start with the short spelling of the help.
-/
def CommandLine.isOrdinary (text : String) : Bool :=
  match text.toList with
  | '-' :: rest =>
      rest.head? != some 'h' &&
        (Spelling.isNegative ('-' :: rest)
          || rest.contains ' ')
  | _ => true

/- An expression without a hyphen in front is ordinary. -/
theorem CommandLine.isOrdinary_of_head
    {text : String}
    (h : text.toList.head? ≠ some '-') :
    isOrdinary text = true := by
  unfold isOrdinary
  split
  · next rest hChars =>
      rw [hChars] at h
      exact absurd rfl h
  · rfl

namespace Scope

open Spelling

section Hyphened

variable {c : Char} {rest : List Char}

/- A word that spells a flag is taken for it. -/
theorem kindOfHyphened_of_whole
    {hit : Hit}
    (h : whole? equivFlags ('-' :: c :: rest) = some hit) :
    (command .equiv).kindOfHyphened ('-' :: c :: rest) =
      .hit hit := by
  simp only [kindOfHyphened, h]

variable (hEqual : '=' ∉ '-' :: c :: rest)

include hEqual

/- One that does not is short for a flag or something else. -/
theorem kindOfHyphened_of_not_whole
    (h : whole? equivFlags ('-' :: c :: rest) = none) :
    (command .equiv).kindOfHyphened ('-' :: c :: rest) =
      (command .equiv).kindOfOther ('-' :: c :: rest) := by
  have hLength : ('-' :: c :: rest).length ≠ 1 := by
    simp
  have hNone := equated?_eq_none equivFlags hEqual
  simp only [kindOfHyphened, h, if_neg hLength, hNone]

/- With one hyphen it is about the help or about no flag. -/
theorem kindOfHyphened_short
    (hHyphen : c ≠ '-') :
    c = 'h' ∧
        (∃ hit,
          (command .equiv).kindOfHyphened ('-' :: c :: rest) =
            .hit hit) ∨
      c ≠ 'h' ∧
        (command .equiv).kindOfHyphened ('-' :: c :: rest) =
          if isNegative ('-' :: c :: rest) ||
              ('-' :: c :: rest).contains ' ' then
            .plain
          else .unknown := by
  by_cases hHelp : c = 'h'
  · refine .inl ⟨hHelp, ?_⟩
    cases hWhole : whole? equivFlags ('-' :: c :: rest) with
    | some hit =>
        exact ⟨hit, kindOfHyphened_of_whole hWhole⟩
    | none =>
        rw [kindOfHyphened_of_not_whole hEqual hWhole]
        subst hHelp
        rw [kindOfOther, candidates_short hHyphen]
        exact ⟨_, rfl⟩
  · refine .inr ⟨hHelp, ?_⟩
    have hWhole :
        whole? equivFlags ('-' :: c :: rest) = none := by
      rw [whole?, flag?_short hHelp hHyphen]
      rfl
    rw [kindOfHyphened_of_not_whole hEqual hWhole, kindOfOther,
      candidates_short hHyphen, flag?_short hHelp hHyphen]
    rfl

/- With two hyphens it is a flag without blanks, or none. -/
theorem kindOfHyphened_long
    (hHyphen : c = '-')
    (hMore : rest ≠ []) :
    (∃ hit,
        (command .equiv).kindOfHyphened ('-' :: c :: rest) =
          .hit hit ∧
        ' ' ∉ '-' :: c :: rest) ∨
      (command .equiv).kindOfHyphened ('-' :: c :: rest) =
        if isNegative ('-' :: c :: rest) ||
            ('-' :: c :: rest).contains ' ' then
          .plain
        else .unknown := by
  subst hHyphen
  rcases List.exists_cons_of_ne_nil hMore with
    ⟨d, others, rfl⟩
  cases hWhole : whole? equivFlags ('-' :: '-' :: d :: others) with
  | some hit =>
      refine .inl
        ⟨hit, kindOfHyphened_of_whole hWhole, ?_⟩
      rcases Option.map_eq_some_iff.mp hWhole with
        ⟨f, hFlag, _⟩
      have hBlank := blank_notMem_spelling _ (mem_of_flag? hFlag)
      rwa [String.toList_ofList] at hBlank
  | none =>
      rw [kindOfHyphened_of_not_whole hEqual hWhole]
      rcases candidates_long hEqual with
        hNone | ⟨s, hit, hOne, hStart, hBlank⟩
      · right
        rw [kindOfOther, hNone]
        rfl
      · left
        refine ⟨hit, ?_, fun hMem => hBlank (hStart.subset hMem)⟩
        rw [kindOfOther, hOne]
        rfl

/-
  A word is taken for a flag only if it starts with the short
  spelling of the help, or with two hyphens and has no blank.
-/
theorem kindOfHyphened_cases
    (hMore : '-' :: c :: rest ≠ ['-', '-']) :
    (c = 'h' ∨ c = '-' ∧ ' ' ∉ '-' :: c :: rest) ∧
        (∃ hit,
          (command .equiv).kindOfHyphened ('-' :: c :: rest) =
            .hit hit) ∨
      c ≠ 'h' ∧
        (command .equiv).kindOfHyphened ('-' :: c :: rest) =
          if isNegative ('-' :: c :: rest) ||
              ('-' :: c :: rest).contains ' ' then
            .plain
          else .unknown := by
  by_cases hHyphen : c = '-'
  · have hRest : rest ≠ [] := by
      rintro rfl
      rw [hHyphen] at hMore
      exact hMore rfl
    rcases kindOfHyphened_long hEqual hHyphen hRest with
      ⟨hit, hHit, hBlank⟩ | hOther
    · exact .inl ⟨.inr ⟨hHyphen, hBlank⟩, hit, hHit⟩
    · refine .inr ⟨?_, hOther⟩
      rw [hHyphen]
      decide
  · rcases kindOfHyphened_short hEqual hHyphen with
      ⟨hHelp, hHit⟩ | hOther
    · exact .inl ⟨.inl hHelp, hHit⟩
    · exact .inr hOther

end Hyphened

/- Neither one hyphen nor two alone are an expression. -/
theorem more_of_parse
    {text : String}
    {t : Tree}
    (hParse : parse text = .ok t) :
    text ≠ "-" ∧ text ≠ "--" := by
  have hOne : parse "-" = .error (.cutShort .operand) := by
    cbv
  have hTwo : parse "--" = .error (.cutShort .operand) := by
    cbv
  constructor
  · rintro rfl
    rw [hOne] at hParse
    cases hParse
  · rintro rfl
    rw [hTwo] at hParse
    cases hParse

/-
  An expression that is read is an ordinary word just if it
  looks like one, and otherwise it is taken for flags or for
  something unknown.
-/
theorem kindOf_expression
    {text : String}
    {t : Tree}
    (hParse : parse text = .ok t) :
    CommandLine.isOrdinary text = true ∧
        (command .equiv).kindOf text = .plain ∨
      CommandLine.isOrdinary text = false ∧
        ((command .equiv).kindOf text = .unknown ∨
          ∃ hit, (command .equiv).kindOf text = .hit hit) := by
  by_cases hHead : text.toList.head? = some '-'
  · rcases List.head?_eq_some_iff.mp hHead with ⟨rest, hText⟩
    have hEqual := not_mem_of_parse hParse
    rcases more_of_parse hParse with ⟨hOne, hTwo⟩
    rw [CommandLine.isOrdinary, kindOf, hText]
    rw [hText] at hEqual
    cases rest with
    | nil => exact absurd (String.toList_inj.mp hText) hOne
    | cons c rest =>
        have hMore : '-' :: c :: rest ≠ ['-', '-'] := fun h =>
          hTwo (String.toList_inj.mp (hText.trans h))
        have hContains :
            (c :: rest).contains ' ' =
              ('-' :: c :: rest).contains ' ' := rfl
        simp only [hContains]
        rcases kindOfHyphened_cases hEqual hMore with
          ⟨hFlag, hHit⟩ | ⟨hHelp, hOther⟩
        · refine .inr ⟨?_, .inr hHit⟩
          rcases hFlag with rfl | ⟨rfl, hBlank⟩
          · rfl
          · have hNone :
                ('-' :: '-' :: rest).contains ' ' = false :=
              Bool.eq_false_iff.mpr
                (List.contains_iff_mem.not.mpr hBlank)
            rw [isNegative_hyphen, hNone]
            rfl
        · have hFirst :
              ((c :: rest).head? != some 'h') = true := by
            simpa using hHelp
          rw [hFirst, hOther]
          cases isNegative ('-' :: c :: rest) ||
              ('-' :: c :: rest).contains ' ' with
          | true => exact .inl ⟨rfl, rfl⟩
          | false => exact .inr ⟨rfl, .inl rfl⟩
  · exact .inl ⟨CommandLine.isOrdinary_of_head hHead,
      kindOf_of_head _ hHead⟩

/- An expression that looks like an ordinary word is one. -/
theorem kindOf_of_isOrdinary
    {text : String}
    {t : Tree}
    (hParse : parse text = .ok t)
    (h : CommandLine.isOrdinary text = true) :
    (command .equiv).kindOf text = .plain := by
  rcases kindOf_expression hParse with
    ⟨_, hPlain⟩ | ⟨hOther, _⟩
  · exact hPlain
  · rw [h] at hOther
    cases hOther

------------------------------------------------------------
-- Integers
------------------------------------------------------------

/- The text of an integer is an ordinary word. -/
theorem kindOf_integer (n : Int) :
    (command .equiv).kindOf (Text.integer n) = .plain := by
  have hDigits : ∀ c ∈ Text.numeral n.natAbs,
      Text.isDigit c = true :=
    fun _ hc => Text.isDigit_of_mem_numeral hc
  rcases List.exists_cons_of_ne_nil
    (Text.numeral_ne_nil n.natAbs) with ⟨d, rest, hNumeral⟩
  have hFirst : Text.isDigit d = true :=
    hDigits d (hNumeral ▸ List.mem_cons_self)
  have hHyphen : d ≠ '-' := by
    rintro rfl
    cases hFirst
  rcases Text.integerChars_cases n with
    ⟨hChars, _⟩ | ⟨hChars, _⟩
  · refine kindOf_of_head _ ?_
    rw [Text.integer, String.toList_ofList, hChars, hNumeral]
    simpa using hHyphen
  · have hEqual : '=' ∉ '-' :: d :: rest := by
      rw [← hNumeral, ← hChars]
      intro hMem
      rcases Text.isDigit_of_mem_integerChars hMem with h | h
      · cases h
      · cases h
    have hNegative : isNegative ('-' :: d :: rest) = true := by
      rw [← hNumeral]
      exact isNegative_numeral n.natAbs
    rw [kindOf, Text.integer, String.toList_ofList, hChars,
      hNumeral]
    rcases kindOfHyphened_short hEqual hHyphen with
      ⟨rfl, _⟩ | ⟨_, hOther⟩
    · cases hFirst
    · rw [hNegative] at hOther
      exact hOther

/- It does not end the flags. -/
theorem integer_ne_separator (n : Int) :
    Text.integer n ≠ "--" := by
  intro h
  have hChars := congrArg String.toList h
  rw [Text.integer, String.toList_ofList] at hChars
  have hDigits : ∀ c ∈ Text.numeral n.natAbs,
      Text.isDigit c = true :=
    fun _ hc => Text.isDigit_of_mem_numeral hc
  have hHyphen : '-' ∈ Text.numeral n.natAbs := by
    rcases Text.integerChars_cases n with
      ⟨hSame, _⟩ | ⟨hSame, _⟩
    · rw [← hSame, hChars]
      decide
    · rw [hChars] at hSame
      rw [← (List.cons.inj hSame).2]
      decide
  cases hDigits _ hHyphen

end Scope

end Termwise
