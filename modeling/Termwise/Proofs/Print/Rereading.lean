import Termwise.Proofs.Print.RoundTrip
import Termwise.Proofs.Syntax.Leaves
import Termwise.Reduce

/-
  What was read from a text is printed and read again.  The
  tree comes back unless its infix form opens too many
  levels.  The form may open more of them than the text did,
  since in it every operation stands in parentheses.

  Key definitions include:
    * `Tree.signed`

  Main declarations:
    * `parse_signs`
    * `lettered_of_parse`
    * `reread_infix`
    * `signs_not_reread`
-/

namespace Termwise

------------------------------------------------------------
-- Rows of Signs
------------------------------------------------------------

/- A tree with minus signs in front. -/
def Tree.signed : Nat → Tree → Tree
| 0, t => t
| n + 1, t => neg (signed n t)

namespace Tree

/- Signs stand on a level each. -/
theorem depth_signed
    (n : Nat)
    (t : Tree) :
    (signed n t).depth = n + t.depth := by
  induction n with
  | zero => exact (Nat.zero_add _).symm
  | succ n ih =>
      rw [signed, depth, ih]
      omega

/- In the infix form every sign opens two levels. -/
theorem infixNesting_signed
    (n : Nat)
    (t : Tree) :
    (signed n t).infixNesting = 2 * n + t.infixNesting := by
  induction n with
  | zero => exact (Nat.zero_add _).symm
  | succ n ih =>
      rw [signed, infixNesting, ih]
      omega

end Tree

/- Minus signs in front of a primary open a level each. -/
theorem Derives.signed
    {ls : List Lexeme}
    {t : Tree}
    {m : Nat}
    (h : Derives .primary ls t m)
    (n : Nat) :
    Derives .primary (List.replicate n (.op .sub) ++ ls)
      (Tree.signed n t) (m + n) := by
  induction n with
  | zero => exact h
  | succ n ih => exact ih.negation

/- Minus signs in front of a text are a token each. -/
theorem CutsInto.signed
    {cs : List Char}
    {ls : List Lexeme}
    (h : CutsInto cs ls)
    (n : Nat) :
    CutsInto (List.replicate n '-' ++ cs)
      (List.replicate n (.op .sub) ++ ls) := by
  induction n with
  | zero => exact h
  | succ n ih => exact .symbol rfl ih

/- No sign and no name is too long to read. -/
theorem short_signs
    (n : Nat)
    (letters : List Char) :
    ∀ l ∈ List.replicate n (.op .sub) ++ [.name letters],
      Lexeme.Short l := by
  intro l hl
  rcases List.mem_append.mp hl with hSign | hName
  · rw [List.eq_of_mem_replicate hSign]
    trivial
  · rw [List.mem_singleton.mp hName]
    trivial

/-
  A variable with minus signs in front is read, as long as
  the tree has few enough levels.
-/
theorem parse_signs
    {x : String}
    (hWord : IsWord x)
    {n : Nat}
    (hDepth : n < depthLimit) :
    parse (String.ofList (List.replicate n '-' ++ x.toList)) =
      .ok (.signed n (.var x)) := by
  have hCuts := (CutsInto.name hWord.1 hWord.2).signed n
  have hDerives := (Derives.name x.toList).signed n
  have hLevels := Tree.depth_signed n (.var x)
  rw [Tree.depth] at hLevels
  rw [String.ofList_toList] at hDerives
  rw [hCuts.parse_eq (short_signs n x.toList)
      hDerives.factor.term (by omega), if_pos (by omega)]

------------------------------------------------------------
-- Reading Again
------------------------------------------------------------

section Rereading

variable {text : String} {t : Tree}

/- A tree that was read has words for variables. -/
theorem lettered_of_parse
    (h : parse text = .ok t) :
    t.Lettered :=
  fun _ hx => letters_of_parse h hx

/- A tree that was read is not too deep. -/
theorem depth_le_of_parse
    (h : parse text = .ok t) :
    t.depth ≤ depthLimit := by
  rcases parse_eq_ok.mp h with ⟨ts, _, _, hDepth⟩
  exact hDepth

/-
  A tree that was read has an infix form.  The form is read
  as that tree, and reduced as the tree is, exactly if it
  opens few enough levels.  Otherwise it is refused for
  opening too many.
-/
theorem reread_infix
    (h : parse text = .ok t) :
    ∃ form, t.toInfix = .ok form ∧
      (parse form = .ok t ↔ t.infixNesting ≤ depthLimit) ∧
      ((parse form).map Tree.reduce = .ok t.reduce ↔
        t.infixNesting ≤ depthLimit) ∧
      ((∃ token, parse form = .error (.nested token)) ↔
        depthLimit < t.infixNesting) := by
  have hNames := lettered_of_parse h
  have hNumbers := writable_of_parse h
  refine ⟨_, t.toInfix_eq_ok hNumbers, ?_⟩
  by_cases hNesting : t.infixNesting ≤ depthLimit
  · have hRead :=
      t.parse_infix_of_nesting_le hNames hNumbers hNesting
    rw [if_pos (depth_le_of_parse h)] at hRead
    rw [hRead]
    refine ⟨iff_of_true rfl hNesting,
      iff_of_true rfl hNesting,
      iff_of_false ?_ (Nat.not_lt.mpr hNesting)⟩
    rintro ⟨token, hError⟩
    cases hError
  · have hOver := Nat.not_le.mp hNesting
    rcases t.parse_infix_of_lt_nesting hNames hNumbers hOver
      with ⟨token, hError⟩
    rw [hError]
    refine ⟨iff_of_false ?_ hNesting,
      iff_of_false ?_ hNesting,
      iff_of_true ⟨token, rfl⟩ hOver⟩
    · intro hRead
      cases hRead
    · intro hReduced
      cases hReduced

end Rereading

/-
  Half as many signs as there may be levels come back: their
  infix form opens just as many levels as it may.
-/
theorem reread_infix_signs :
    let text := String.ofList (List.replicate 75 '-' ++ ['x'])
    let t := Tree.signed 75 (.var "x")
    parse text = .ok t ∧
      ∃ form, t.toInfix = .ok form ∧
        parse form = .ok t ∧
        (parse form).map Tree.reduce = .ok t.reduce := by
  intro text t
  have hRead : parse text = .ok t :=
    parse_signs (x := "x") (by decide) (by decide)
  have hNesting : t.infixNesting ≤ depthLimit := by
    have hLevels := Tree.infixNesting_signed 75 (.var "x")
    exact Nat.le_of_eq hLevels
  rcases reread_infix hRead with
    ⟨form, hForm, hAgain, hReduced, _⟩
  exact ⟨hRead, form, hForm, hAgain.mpr hNesting,
    hReduced.mpr hNesting⟩

/-
  One sign more is read and printed as well, but the infix
  form is refused.
-/
theorem signs_not_reread :
    let text := String.ofList (List.replicate 76 '-' ++ ['x'])
    let t := Tree.signed 76 (.var "x")
    parse text = .ok t ∧
      ∃ form, t.toInfix = .ok form ∧
        parse form ≠ .ok t ∧
        (parse form).map Tree.reduce ≠ .ok t.reduce ∧
        ∃ token, parse form = .error (.nested token) := by
  intro text t
  have hRead : parse text = .ok t :=
    parse_signs (x := "x") (by decide) (by decide)
  have hNesting : depthLimit < t.infixNesting := by
    have hLevels := Tree.infixNesting_signed 76 (.var "x")
    exact Nat.lt_of_lt_of_eq (by decide) hLevels.symm
  rcases t.parse_infix_of_lt_nesting
      (lettered_of_parse hRead) (writable_of_parse hRead)
      hNesting with
    ⟨token, hError⟩
  refine ⟨hRead, _, t.toInfix_eq_ok (writable_of_parse hRead),
    ?_, ?_, token, hError⟩
  all_goals
    rw [hError]
    intro hSame
    cases hSame

end Termwise
