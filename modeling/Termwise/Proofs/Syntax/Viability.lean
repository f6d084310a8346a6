import Termwise.Proofs.Syntax.Precedence
import Termwise.Proofs.Syntax.Unambiguity

/-
  The reading with a stack accepts the starts of expressions
  and nothing else.

  What a reading has come to tells what the lexemes so far
  are: for every open parenthesis what stands in front of
  it, then the operands that wait, then minus signs or a
  product.  From there the expression can be finished by an
  operand, if one is due, and closing parentheses.

  Key definitions include:
    * `Waiting`
    * `Front.Spelled`
    * `Front.StackSpelled`
    * `Stage.Spelled`
    * `Stage.start`

  Main declarations:
    * `Stage.Spelled.operand`
    * `Stage.Spelled.next`
    * `Stage.Spelled.extendable`
    * `extendable_iff`
    * `grammatical_iff`
-/

namespace Termwise

------------------------------------------------------------
-- Waiting Operands
------------------------------------------------------------

/-
  Lexemes are a left operand and its operator, whose trees
  are of a level, or there is none and they are none.
-/
def Waiting
    (level : Level) :
    Option (Tree × Op) → List Lexeme → Prop
| none, ls => ls = []
| some (left, o), ls =>
    o.level = level ∧ ∃ ks n,
      ls = ks ++ [.op o] ∧ Derives level ks left n

/- A right operand completes what waits for it. -/
theorem Waiting.attach
    {level right : Level}
    {waiting : Option (Tree × Op)}
    {ls ks : List Lexeme}
    {t : Tree}
    {n : Nat}
    (h : Waiting level waiting ls)
    (hLevels : level.power ≤ right.power)
    (hOperators : ∀ o : Op, o.level = level →
      o.rightLevel = right)
    (hOperand : Derives right ks t n) :
    ∃ m, Derives level (ls ++ ks) (attach waiting t) m := by
  cases waiting with
  | none =>
      cases h
      exact ⟨n, hOperand.widen hLevels⟩
  | some operation =>
      rcases operation with ⟨left, o⟩
      rcases h with ⟨hLevel, js, m, rfl, hLeft⟩
      rw [← hLevel] at hLeft ⊢
      rw [← hOperators o hLevel] at hOperand
      rw [List.append_assoc]
      exact ⟨max m n, hLeft.operation o hOperand⟩

/- Minus signs in front of a primary negate it. -/
theorem Derives.negatedTimes
    {ls : List Lexeme}
    {t : Tree}
    {n : Nat}
    (h : Derives .primary ls t n)
    (k : Nat) :
    Derives .primary (List.replicate k (.op .sub) ++ ls)
      (negatedTimes k t) (n + k) := by
  induction k generalizing ls t n with
  | zero => exact h
  | succ k ih =>
      have hInner := ih h.negation
      rw [List.replicate_succ', List.append_assoc]
      rw [Nat.add_right_comm] at hInner
      exact hInner

------------------------------------------------------------
-- Spelling of Unfinished Expressions
------------------------------------------------------------

namespace Front

/- Lexemes are what stands in front of an operand. -/
def Spelled (f : Front) (ls : List Lexeme) : Prop :=
  ∃ before after,
    ls = before ++
      (after ++ List.replicate f.minuses (.op .sub)) ∧
    Waiting .sum f.sum before ∧
    Waiting .product f.product after

/- Nothing is spelled by nothing. -/
theorem spelled_empty : empty.Spelled [] :=
  ⟨[], [], rfl, rfl, rfl⟩

/-
  Lexemes are what stands in front of some parentheses, the
  last one first, with those parentheses.
-/
def StackSpelled : List Front → List Lexeme → Prop
| [], ls => ls = []
| f :: outer, ls =>
    ∃ before after, ls = before ++ (after ++ [.opening]) ∧
      StackSpelled outer before ∧ f.Spelled after

end Front

namespace Stage

/- A reading that has read nothing. -/
def start : Stage :=
  due .empty []

/- Lexemes lead a reading from its start to a stage. -/
def Spelled : Stage → List Lexeme → Prop
| due f outer, ls =>
    ∃ before after, ls = before ++ after ∧
      Front.StackSpelled outer before ∧ f.Spelled after
| complete sum product outer, ls =>
    ∃ before middle after n,
      ls = before ++ (middle ++ after) ∧
      Front.StackSpelled outer before ∧
      Waiting .sum sum middle ∧
      Derives .product after product n

/- No lexemes are needed for the start. -/
theorem spelled_start : start.Spelled [] :=
  ⟨[], [], rfl, rfl, Front.spelled_empty⟩

------------------------------------------------------------
-- Steps
------------------------------------------------------------

namespace Spelled

/- Where an operand is due, a primary completes a product. -/
theorem operand
    {f : Front}
    {outer : List Front}
    {ls ks : List Lexeme}
    {t : Tree}
    {n : Nat}
    (h : (due f outer).Spelled ls)
    (hOperand : Derives .primary ks t n) :
    (complete f.sum (f.complete t) outer).Spelled
      (ls ++ ks) := by
  rcases h with ⟨as, bs, rfl, hOuter, hFront⟩
  rcases hFront with ⟨before, after, rfl, hSum, hProduct⟩
  have hProducts : ∀ o : Op, o.level = .product →
      o.rightLevel = .primary := by
    intro o ho
    cases o with
    | mul | div => rfl
    | add | sub => cases ho
  rcases hProduct.attach (by decide) hProducts
      (hOperand.negatedTimes f.minuses) with
    ⟨m, hComplete⟩
  refine ⟨as, before, _, m, ?_, hOuter, hSum, hComplete⟩
  simp only [List.append_assoc]

/- What is complete is a sum behind what encloses it. -/
theorem exists_sum
    {sum : Option (Tree × Op)}
    {product : Tree}
    {outer : List Front}
    {ls : List Lexeme}
    (h : (complete sum product outer).Spelled ls) :
    ∃ before after n, ls = before ++ after ∧
      Front.StackSpelled outer before ∧
      Derives .sum after (attach sum product) n := by
  rcases h with
    ⟨before, middle, after, n, rfl, hOuter, hSum, hProduct⟩
  have hSums : ∀ o : Op, o.level = .sum →
      o.rightLevel = .product := by
    intro o ho
    cases o with
    | add | sub => rfl
    | mul | div => cases ho
  rcases hSum.attach (by decide) hSums hProduct with
    ⟨m, hComplete⟩
  exact ⟨before, _, m, rfl, hOuter, hComplete⟩

/- A closing parenthesis makes a sum a primary. -/
theorem closing
    {sum : Option (Tree × Op)}
    {product : Tree}
    {f : Front}
    {outer : List Front}
    {ls : List Lexeme}
    (h : (complete sum product (f :: outer)).Spelled ls) :
    (complete f.sum (f.complete (attach sum product))
      outer).Spelled (ls ++ [.closing]) := by
  rcases h.exists_sum with ⟨as, bs, n, rfl, hOuter, hSum⟩
  rcases hOuter with ⟨before, after, rfl, hOuter, hFront⟩
  have hDue : (due f outer).Spelled (before ++ after) :=
    ⟨before, after, rfl, hOuter, hFront⟩
  have hComplete := hDue.operand hSum.parentheses
  simp only [List.append_assoc, List.cons_append,
    List.nil_append] at hComplete ⊢
  exact hComplete

/- An operator of products waits behind a product. -/
theorem factor
    {sum : Option (Tree × Op)}
    {product : Tree}
    {outer : List Front}
    {ls : List Lexeme}
    {o : Op}
    (hOp : o.level = .product)
    (h : (complete sum product outer).Spelled ls) :
    (due ⟨sum, some (product, o), 0⟩ outer).Spelled
      (ls ++ [.op o]) := by
  rcases h with
    ⟨before, middle, after, n, rfl, hOuter, hSum, hProduct⟩
  refine ⟨before, middle ++ (after ++ [.op o]), ?_, hOuter,
    middle, after ++ [.op o], ?_, hSum, hOp, after, n, rfl,
    hProduct⟩
  · simp only [List.append_assoc]
  · simp

/- An operator of sums waits behind a sum. -/
theorem term
    {sum : Option (Tree × Op)}
    {product : Tree}
    {outer : List Front}
    {ls : List Lexeme}
    {o : Op}
    (hOp : o.level = .sum)
    (h : (complete sum product outer).Spelled ls) :
    (due ⟨some (attach sum product, o), none, 0⟩
      outer).Spelled (ls ++ [.op o]) := by
  rcases h.exists_sum with
    ⟨before, after, n, rfl, hOuter, hSum⟩
  refine ⟨before, after ++ [.op o], ?_, hOuter,
    after ++ [.op o], [], ?_, ⟨hOp, after, n, rfl, hSum⟩, rfl⟩
  · simp only [List.append_assoc]
  · simp

/- A step keeps what the lexemes so far are. -/
theorem next
    {s s₁ : Stage}
    {ls : List Lexeme}
    {l : Lexeme}
    (h : s.Spelled ls)
    (hNext : s.next l = some s₁) :
    s₁.Spelled (ls ++ [l]) := by
  cases s with
  | due f outer =>
      cases l with
      | number digits =>
          cases hNext
          exact h.operand (.number digits)
      | name letters =>
          cases hNext
          exact h.operand (.name letters)
      | opening =>
          cases hNext
          rcases h with ⟨before, after, rfl, hOuter, hFront⟩
          refine ⟨before ++ (after ++ [.opening]), [], ?_,
            ⟨before, after, rfl, hOuter, hFront⟩,
            Front.spelled_empty⟩
          simp only [List.append_assoc, List.append_nil]
      | op o =>
          cases o with
          | sub =>
              cases hNext
              rcases h with ⟨as, bs, rfl, hOuter, hFront⟩
              rcases hFront with
                ⟨before, after, rfl, hSum, hProduct⟩
              refine ⟨as, _, List.append_assoc .., hOuter,
                before, after, ?_, hSum, hProduct⟩
              simp only [List.append_assoc,
                List.replicate_succ']
          | add | mul | div => cases hNext
      | closing => cases hNext
  | complete sum product outer =>
      cases l with
      | op o =>
          cases o with
          | add | sub =>
              cases hNext
              exact h.term rfl
          | mul | div =>
              cases hNext
              exact h.factor rfl
      | closing =>
          cases outer with
          | nil => cases hNext
          | cons f outer =>
              cases hNext
              exact h.closing
      | number | name | opening => cases hNext

/- Every stage of a reading is spelled by what was read. -/
theorem run
    {s s₁ : Stage}
    {ls ks : List Lexeme}
    (h : s.Spelled ls)
    (hRun : s.run ks = some s₁) :
    s₁.Spelled (ls ++ ks) := by
  induction ks generalizing s ls with
  | nil =>
      cases hRun
      rw [List.append_nil]
      exact h
  | cons l ks ih =>
      rcases Option.bind_eq_some_iff.mp hRun with
        ⟨s₂, hNext, hRest⟩
      have hAll := ih (h.next hNext) hRest
      rw [List.append_assoc] at hAll
      exact hAll

------------------------------------------------------------
-- Completion
------------------------------------------------------------

/- Closing parentheses finish what is complete so far. -/
theorem grammatical
    {sum : Option (Tree × Op)}
    {product : Tree}
    {outer : List Front}
    {ls : List Lexeme}
    (h : (complete sum product outer).Spelled ls) :
    Grammatical
      (ls ++ List.replicate outer.length .closing) := by
  induction outer generalizing sum product ls with
  | nil =>
      rcases h.exists_sum with ⟨before, after, n, rfl, rfl, hSum⟩
      refine ⟨attach sum product, n, ?_⟩
      rw [List.nil_append, List.length_nil,
        List.replicate_zero, List.append_nil]
      exact hSum
  | cons f outer ih =>
      have hAll := ih h.closing
      rw [List.append_assoc] at hAll
      exact hAll

/- An operand, if one is due, and parentheses finish it. -/
theorem extendable
    {s : Stage}
    {ls : List Lexeme}
    (h : s.Spelled ls) :
    Extendable ls := by
  cases s with
  | complete sum product outer => exact ⟨_, h.grammatical⟩
  | due f outer =>
      have hAll := (h.operand (.number ['0'])).grammatical
      rw [List.append_assoc] at hAll
      exact ⟨_, hAll⟩

end Spelled

end Stage

------------------------------------------------------------
-- Starts of Expressions
------------------------------------------------------------

/-
  Lexemes make up an expression if the reading comes through
  them to a complete product with no parenthesis open.
-/
theorem grammatical_iff
    {ls : List Lexeme} :
    Grammatical ls ↔ ∃ sum product,
      Stage.start.run ls = some (.complete sum product []) := by
  constructor
  · rintro ⟨t, n, hDerives⟩
    rcases hDerives.passes [] with ⟨sum, product, hRun, _⟩
    exact ⟨sum, product, hRun⟩
  · rintro ⟨sum, product, hRun⟩
    have hAll := (Stage.spelled_start.run hRun).grammatical
    rw [List.nil_append, List.length_nil,
      List.replicate_zero, List.append_nil] at hAll
    exact hAll

/-
  Lexemes are the start of an expression if the reading gets
  through them.
-/
theorem extendable_iff
    {ls : List Lexeme} :
    Extendable ls ↔ ∃ s, Stage.start.run ls = some s := by
  constructor
  · rintro ⟨rest, hGrammatical⟩
    rcases grammatical_iff.mp hGrammatical with
      ⟨sum, product, hRun⟩
    rw [Stage.run_append] at hRun
    rcases Option.bind_eq_some_iff.mp hRun with ⟨s, hStart, _⟩
    exact ⟨s, hStart⟩
  · rintro ⟨s, hRun⟩
    exact (Stage.spelled_start.run hRun).extendable

end Termwise
