import Termwise.Print.Flat
import Termwise.Print.Typeset
import Termwise.Proofs.Print.RoundTrip
import Termwise.Text.Word

/-
  The typeset form of a tree without divisions, with `*` for
  the centred dot, is read as that tree exactly if the tree
  is flat.  The form is made of lexemes without parentheses.
  The grammar derives none but flat trees from such lexemes,
  and every flat tree from the lexemes of its form.

  Key definitions include:
    * `Level.Allows`
    * `Tree.level`
    * `Tree.plainChars`
    * `Tree.plainLexemes`
    * `Tree.plainNesting`

  Main declarations:
    * `Derives.flat`
    * `Tree.derives_plainLexemes`
    * `Tree.cutsInto_plainChars`
    * `Tree.replaceAll_typesetChars`
    * `Tree.parse_typeset_iff_flat`
-/

namespace Termwise

------------------------------------------------------------
-- Levels of Trees
------------------------------------------------------------

/-
  A tree may stand on a level without parentheses: no
  operation is a primary, and no sum is a product.
-/
def Level.Allows (t : Tree) : Level → Prop
| .primary => ¬ t.IsOperation
| .product => ¬ t.IsSum
| .sum => True

namespace Tree

/- A sum is an operation. -/
theorem isOperation_of_isSum
    {t : Tree}
    (h : t.IsSum) :
    t.IsOperation := by
  cases t with
  | num | var | neg => exact h
  | bin => trivial

/-
  An operation is flat if its operands are flat and may stand
  beside its operator.
-/
theorem flat_bin
    {op : Op}
    {l r : Tree} :
    (bin op l r).Flat ↔
      l.Flat ∧ r.Flat ∧ op.level.Allows l ∧
        op.rightLevel.Allows r := by
  cases op with
  | add | sub =>
      show l.Flat ∧ r.Flat ∧ ¬ r.IsSum ↔
        l.Flat ∧ r.Flat ∧ True ∧ ¬ r.IsSum
      rw [true_and]
  | mul | div => rfl

/- The narrowest level that a tree may stand on. -/
def level : Tree → Level
| bin op _ _ => op.level
| _ => .primary

/- A level that allows a tree is no narrower than that. -/
theorem power_le_of_allows
    {t : Tree}
    {level : Level}
    (h : level.Allows t) :
    level.power ≤ t.level.power := by
  cases t with
  | num | var | neg =>
      show level.power ≤ Level.primary.power
      cases level <;> decide
  | bin op l r =>
      cases level with
      | primary => exact absurd trivial h
      | product =>
          cases op with
          | add | sub => exact absurd trivial h
          | mul | div => exact Nat.le_refl _
      | sum => exact Nat.zero_le _

end Tree

/-
  Without parentheses only flat trees are derived, and on
  each level only those that may stand on it.
-/
theorem Derives.flat
    {level : Level}
    {ls : List Lexeme}
    {t : Tree}
    {n : Nat}
    (h : Derives level ls t n)
    (hNone : .opening ∉ ls) :
    t.Flat ∧ level.Allows t := by
  induction h with
  | number | name => exact ⟨trivial, id⟩
  | negation _ ih =>
      exact ⟨ih (List.not_mem_of_not_mem_cons hNone), id⟩
  | parentheses =>
      exact absurd (List.mem_append_left _ List.mem_cons_self)
        hNone
  | factor _ ih =>
      rcases ih hNone with ⟨hFlat, hPrimary⟩
      exact ⟨hFlat, mt Tree.isOperation_of_isSum hPrimary⟩
  | term _ ih => exact ⟨(ih hNone).1, trivial⟩
  | times o hOp _ _ ihLeft ihRight =>
      simp only [List.mem_append, List.mem_cons, not_or]
        at hNone
      rcases ihLeft hNone.1 with ⟨hLeft, hAllows⟩
      rcases ihRight hNone.2.2 with ⟨hRight, hAllows₂⟩
      rcases hOp with rfl | rfl
      · exact ⟨⟨hLeft, hRight, hAllows, hAllows₂⟩, id⟩
      · exact ⟨⟨hLeft, hRight, hAllows, hAllows₂⟩, id⟩
  | plus o hOp _ _ ihLeft ihRight =>
      simp only [List.mem_append, List.mem_cons, not_or]
        at hNone
      rcases ihLeft hNone.1 with ⟨hLeft, _⟩
      rcases ihRight hNone.2.2 with ⟨hRight, hAllows⟩
      rcases hOp with rfl | rfl
      · exact ⟨⟨hLeft, hRight, hAllows⟩, trivial⟩
      · exact ⟨⟨hLeft, hRight, hAllows⟩, trivial⟩

------------------------------------------------------------
-- Writing Without Parentheses
------------------------------------------------------------

namespace Tree

/- The characters of a tree, without any parentheses. -/
def plainChars : Tree → List Char
| num n => Text.numeral n
| var x => x.toList
| neg t => '-' :: t.plainChars
| bin op l r =>
    l.plainChars ++ ' ' :: op.sign :: ' ' :: r.plainChars

/- The lexemes of a tree, without any parentheses. -/
def plainLexemes : Tree → List Lexeme
| num n => [.number (Text.numeral n)]
| var x => [.name x.toList]
| neg t => .op .sub :: t.plainLexemes
| bin op l r => l.plainLexemes ++ .op op :: r.plainLexemes

/- The most minus signs that are open at once in them. -/
def plainNesting : Tree → Nat
| num _ => 0
| var _ => 0
| neg t => t.plainNesting + 1
| bin _ l r => max l.plainNesting r.plainNesting

/- A sign that is open stands on a level of the tree. -/
theorem plainNesting_lt_depth (t : Tree) :
    t.plainNesting < t.depth := by
  induction t with
  | num | var => exact Nat.zero_lt_one
  | neg t ih =>
      rw [plainNesting, depth]
      omega
  | bin op l r ihLeft ihRight =>
      rw [plainNesting, depth]
      omega

/- The lexemes are those of the infix form, at most. -/
theorem plainLexemes_subset (t : Tree) :
    t.plainLexemes ⊆ t.infixLexemes := by
  induction t with
  | num | var => exact List.Subset.refl _
  | neg t ih =>
      intro k hk
      exact List.mem_cons_of_mem _ (List.mem_append_left _
        (List.cons_subset_cons _ ih hk))
  | bin op l r ihLeft ihRight =>
      have hInner :
          l.plainLexemes ++ .op op :: r.plainLexemes ⊆
            l.infixLexemes ++ .op op :: r.infixLexemes :=
        List.append_subset.mpr
          ⟨List.subset_append_of_subset_left _ ihLeft,
            List.subset_append_of_subset_right _
              (List.cons_subset_cons _ ihRight)⟩
      intro k hk
      exact List.mem_cons_of_mem _
        (List.mem_append_left _ (hInner hk))

/- No parenthesis is among them. -/
theorem opening_notMem_plainLexemes (t : Tree) :
    .opening ∉ t.plainLexemes := by
  induction t with
  | num | var => simp [plainLexemes]
  | neg t ih => simp [plainLexemes, ih]
  | bin op l r ihLeft ihRight =>
      simp [plainLexemes, ihLeft, ihRight]

/- The grammar derives a flat tree from them. -/
theorem derives_plainLexemes
    {t : Tree}
    (h : t.Flat) :
    Derives t.level t.plainLexemes t t.plainNesting := by
  induction t with
  | num n => exact (num n).derives_infixLexemes
  | var x => exact (var x).derives_infixLexemes
  | neg t ih =>
      have hPrimary : Level.primary.Allows t := h.2
      exact ((ih h.1).widen (power_le_of_allows hPrimary)).negation
  | bin op l r ihLeft ihRight =>
      rcases flat_bin.mp h with
        ⟨hLeft, hRight, hAllows, hAllows₂⟩
      exact Derives.operation op
        ((ihLeft hLeft).widen (power_le_of_allows hAllows))
        ((ihRight hRight).widen (power_le_of_allows hAllows₂))

/- The characters are cut into the lexemes. -/
theorem cutsInto_plainChars
    {t : Tree}
    (h : t.Lettered) :
    CutsInto t.plainChars t.plainLexemes := by
  induction t with
  | num | var => exact cutsInto_infixChars h
  | neg t ih => exact .symbol rfl (ih h)
  | bin op l r ihLeft ihRight =>
      rcases lettered_bin.mp h with ⟨hLeft, hRight⟩
      have hOperator := CutsInto.blank (c := ' ') (by decide)
        (.symbol (symbol?_sign op)
          (.blank (c := ' ') (by decide) (ihRight hRight)))
      exact .before (by decide) (by decide) (ihLeft hLeft)
        hOperator

/-
  The typeset form of a tree without divisions is that text,
  if `*` is put in the place of every centred dot.
-/
theorem replaceAll_typesetChars
    {t : Tree}
    (hFree : t.DivisionFree)
    (hNames : t.Lettered) :
    Text.replaceAll dotCommand ['*'] t.typesetChars =
      t.plainChars := by
  have hSplit : ∀ cs rest,
      Text.replaceAll dotCommand ['*'] (cs ++ ' ' :: rest) =
        Text.replaceAll dotCommand ['*'] cs ++
          ' ' :: Text.replaceAll dotCommand ['*'] rest :=
    Text.replaceAll_split (by decide) (by decide) ['*']
  have hCons : ∀ c, c ∉ dotCommand → ∀ rest,
      Text.replaceAll dotCommand ['*'] (c :: rest) =
        c :: Text.replaceAll dotCommand ['*'] rest :=
    fun c hc => Text.replaceAll_cons (by decide) hc ['*']
  induction t with
  | num n =>
      exact Text.replaceAll_eq_self
        (Text.notMem_numeral (by decide) n) _ _
  | var x =>
      have hWord := lettered_var.mp hNames
      exact Text.replaceAll_eq_self
        (hWord.notMem (by decide)) _ _
  | neg t ih =>
      rw [typesetChars, List.singleton_append,
        hCons _ (by decide), ih hFree hNames, plainChars]
  | bin op l r ihLeft ihRight =>
      rcases hFree with ⟨hOther, hFreeLeft, hFreeRight⟩
      rcases lettered_bin.mp hNames with ⟨hNames₁, hNames₂⟩
      have hLeft := ihLeft hFreeLeft hNames₁
      have hRight := ihRight hFreeRight hNames₂
      cases op with
      | add | sub =>
          rw [typesetChars_sum (by decide), hSplit,
            hCons _ (by decide), hCons _ (by decide), hLeft,
            hRight, plainChars]
      | mul =>
          have hDot :
              Text.replaceAll dotCommand ['*'] dotCommand =
                ['*'] := by
            decide +kernel
          rw [typesetChars_mul, hSplit, hSplit, hDot, hLeft,
            hRight, plainChars]
          rfl
      | div => exact absurd rfl hOther

------------------------------------------------------------
-- Reading
------------------------------------------------------------

/-
  A tree without divisions that is not too deep, whose names
  are words and whose numbers can be written, has a typeset
  form.  With `*` for the centred dot the form is read as the
  tree exactly if the tree is flat.
-/
theorem parse_typeset_iff_flat
    (t : Tree)
    (hFree : t.DivisionFree)
    (hDepth : t.depth ≤ depthLimit)
    (hNames : t.Lettered)
    (hNumbers : t.Writable) :
    ∃ form : String, t.toTypeset = .ok form ∧
      (parse (String.ofList
          (Text.replaceAll dotCommand ['*'] form.toList)) =
        .ok t ↔ t.Flat) := by
  refine ⟨_, if_pos hNumbers, ?_⟩
  rw [String.toList_ofList,
    replaceAll_typesetChars hFree hNames]
  have hCuts := cutsInto_plainChars hNames
  constructor
  · intro hRead
    rcases (parse_eq_ok_iff _ _).1.mp hRead with
      ⟨ts, n, hTokens, _, hDerives, _⟩
    -- What was read is derived from the lexemes of the form,
    -- which are known, and no parenthesis is among them.
    rcases hCuts.tokens_eq with ⟨us, hTokens₂, hLexemes⟩
    rw [hTokens₂] at hTokens
    cases hTokens
    rw [hLexemes] at hDerives
    exact (hDerives.flat t.opening_notMem_plainLexemes).1
  · intro hFlat
    have hShort : ∀ l ∈ t.plainLexemes, l.Short := fun l hl =>
      short_infixLexemes hNumbers l (t.plainLexemes_subset hl)
    have hDerives : Derives .sum t.plainLexemes t _ :=
      (derives_plainLexemes hFlat).widen (Nat.zero_le _)
    have hNesting := t.plainNesting_lt_depth
    rw [hCuts.parse_eq hShort hDerives (by omega),
      if_pos hDepth]

/-
  A chain of differences is read as it was, with a product
  and signs in it.  A difference on the right is not.
-/
theorem parse_typeset_iff_flat_differences :
    let t := bin .sub
      (bin .sub (var "a") (bin .mul (num 2) (neg (var "b"))))
      (neg (neg (num 3)))
    let u := bin .sub (var "a") (bin .sub (num 2) (var "b"))
    (t.DivisionFree ∧ t.depth ≤ depthLimit ∧ t.Lettered ∧
      t.Writable ∧ u.DivisionFree ∧ u.depth ≤ depthLimit ∧
      u.Lettered ∧ u.Writable) ∧
    (∃ form : String, t.toTypeset = .ok form ∧
      parse (String.ofList
        (Text.replaceAll dotCommand ['*'] form.toList)) =
          .ok t) ∧
    ∃ form : String, u.toTypeset = .ok form ∧
      parse (String.ofList
        (Text.replaceAll dotCommand ['*'] form.toList)) ≠
          .ok u := by
  intro t u
  have hFree : t.DivisionFree := by
    simp [t, DivisionFree]
  have hFree₂ : u.DivisionFree := by
    simp [u, DivisionFree]
  have hDepth : t.depth ≤ depthLimit := by decide
  have hDepth₂ : u.depth ≤ depthLimit := by decide
  have hNames : t.Lettered := by decide
  have hNames₂ : u.Lettered := by decide
  have hNumbers : t.Writable := by decide +kernel
  have hNumbers₂ : u.Writable := by decide +kernel
  have hFlat : t.Flat := by
    simp [t, Flat, IsSum, IsOperation]
  have hNested : ¬ u.Flat := by
    simp [u, Flat, IsSum]
  rcases parse_typeset_iff_flat t hFree hDepth hNames hNumbers
    with ⟨form, hForm, hRead⟩
  rcases parse_typeset_iff_flat u hFree₂ hDepth₂ hNames₂
    hNumbers₂ with ⟨form₂, hForm₂, hRead₂⟩
  exact ⟨⟨hFree, hDepth, hNames, hNumbers, hFree₂, hDepth₂,
      hNames₂, hNumbers₂⟩,
    ⟨form, hForm, hRead.mpr hFlat⟩,
    form₂, hForm₂, mt hRead₂.mp hNested⟩

end Tree

end Termwise
