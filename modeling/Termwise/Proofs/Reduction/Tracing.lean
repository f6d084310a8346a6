import Termwise.Proofs.Reduction.Steps
import Termwise.Proofs.Result
import Termwise.Proofs.Text.Numeral
import Termwise.Proofs.Tree.Parts

/-
  A trace fails for a number with too many digits and for
  nothing else.  The numbers that count are those of the tree
  and the results of the operations that are collapsed on the
  way, whether or not they are left in the reduced tree.

  Key definitions include:
    * `Tree.lastSteps`
    * `Tree.Yields`
    * `Step.write`
    * `Tree.reduceNoting`
    * `Tree.traceNoting`

  Main declarations:
    * `Tree.mem_steps_iff`
    * `Tree.mem_numbers_reduce`
    * `Tree.trace_writable_iff`
    * `Tree.reduceNoting_eq_ok`
    * `Tree.trace_eq_noting`
    * `Tree.trace_or_overlong`
-/

namespace Termwise

namespace Tree

------------------------------------------------------------
-- Steps of Parts
------------------------------------------------------------

/- The step that is taken at the root of a tree, if any. -/
def lastSteps : Tree → List Step
| num _ => []
| var _ => []
| neg t => t.reduce.negatedSteps
| bin op l r => joinSteps op l.reduce r.reduce

/- Every step of a reduction is the last one of a part. -/
theorem mem_steps_iff
    {t : Tree}
    {s : Step} :
    s ∈ t.reduceLogged.2 ↔ ∃ p ∈ t.parts, s ∈ p.lastSteps := by
  induction t with
  | num n | var x =>
      constructor
      · intro h
        cases h
      · rintro ⟨p, hPart, hLast⟩
        rw [List.mem_singleton.mp hPart] at hLast
        exact hLast
  | neg t ih =>
      rw [reduceLogged_neg_snd, List.mem_append, ih]
      simp only [mem_parts_neg, or_and_right, exists_or,
        exists_eq_left]
      exact Or.comm
  | bin op l r ihLeft ihRight =>
      rw [reduceLogged_bin_snd, List.mem_append,
        List.mem_append, ihLeft, ihRight]
      simp only [mem_parts_bin, or_and_right, exists_or,
        exists_eq_left]
      exact Or.comm

/-
  An operation within a tree is collapsed to an integer: its
  operands are reduced to integers, and this is the result
  of the operation on them.
-/
def Yields (t : Tree) (n : Int) : Prop :=
  ∃ op l r a b, bin op l r ∈ t.parts ∧
    l.reduce.integer? = some a ∧
    r.reduce.integer? = some b ∧
    op.exact? a b = some n

/- What is collapsed within a part is so within the tree. -/
theorem Yields.of_part
    {p t : Tree}
    {n : Int}
    (h : p.Yields n)
    (hPart : p ∈ t.parts) :
    t.Yields n := by
  rcases h with ⟨op, l, r, a, b, hIn, hRest⟩
  exact ⟨op, l, r, a, b, parts_subset hPart hIn, hRest⟩

/- An integer that is yielded is the result of a step. -/
theorem Yields.exists_step
    {t : Tree}
    {n : Int}
    (h : t.Yields n) :
    ∃ op a b, .collapsed op a b n ∈ t.reduceLogged.2 := by
  rcases h with ⟨op, l, r, a, b, hPart, hLeft, hRight, hExact⟩
  refine ⟨op, a, b, mem_steps_iff.mpr ⟨_, hPart, ?_⟩⟩
  exact mem_joinSteps.mpr
    ⟨a, b, n, hLeft, hRight, hExact, rfl⟩

------------------------------------------------------------
-- Numbers of Reduced Trees
------------------------------------------------------------

/- Negating a tree keeps its numbers. -/
theorem numbers_negated (t : Tree) :
    t.negated.numbers = t.numbers := by
  rcases negated_cases t with hNegated | ⟨u, rfl, hNegated⟩
  · rw [hNegated]
    rfl
  · rw [hNegated]
    rfl

/-
  A number of a reduced tree was there before, or comes from
  an operation that was collapsed.
-/
theorem mem_numbers_reduce
    {t : Tree}
    {n : Nat}
    (h : n ∈ t.reduce.numbers) :
    n ∈ t.numbers ∨ ∃ m, t.Yields m ∧ m.natAbs = n := by
  induction t with
  | num m | var x => exact .inl h
  | neg t ih =>
      rw [reduce, numbers_negated] at h
      rcases ih h with hBefore | ⟨m, hYields, hSame⟩
      · exact .inl hBefore
      · have hPart := mem_parts_of_neg (neg t).self_mem_parts
        exact .inr ⟨m, hYields.of_part hPart, hSame⟩
  | bin op l r ihLeft ihRight =>
      rcases mem_parts_of_bin (bin op l r).self_mem_parts with
        ⟨hPart₁, hPart₂⟩
      rcases join_cases op l.reduce r.reduce with
        hJoin | ⟨a, b, m, hLeft, hRight, hExact, hJoin⟩
      · rw [reduce, hJoin, numbers, List.mem_append] at h
        rcases h with hIn | hIn
        · rcases ihLeft hIn with hBefore | ⟨m, hYields, hSame⟩
          · exact .inl (List.mem_append_left _ hBefore)
          · exact .inr ⟨m, hYields.of_part hPart₁, hSame⟩
        · rcases ihRight hIn with hBefore | ⟨m, hYields, hSame⟩
          · exact .inl (List.mem_append_right _ hBefore)
          · exact .inr ⟨m, hYields.of_part hPart₂, hSame⟩
      · rw [reduce, hJoin, numbers_of_integer?
          (integer?_ofInt m), List.mem_singleton] at h
        refine .inr ⟨m, ?_, h.symm⟩
        exact ⟨op, l, r, a, b, self_mem_parts _, hLeft,
          hRight, hExact⟩

------------------------------------------------------------
-- Writable Traces
------------------------------------------------------------

section Writing

variable {t : Tree}

variable (hTree : t.Writable)

variable (hYields : ∀ n, t.Yields n → Text.Writable n.natAbs)

include hTree hYields

/- What the parts of a tree are reduced to can be written. -/
theorem writable_reduce_part
    {p : Tree}
    (hPart : p ∈ t.parts) :
    p.reduce.Writable := by
  intro n hn
  rcases mem_numbers_reduce hn with hBefore | ⟨m, hFrom, rfl⟩
  · exact hTree n (numbers_subset hPart hBefore)
  · exact hYields m (hFrom.of_part hPart)

/-
  The steps can be written, for their operands and the trees
  that are negated twice are what some parts are reduced to.
-/
theorem writable_of_mem_steps
    {s : Step}
    (h : s ∈ t.reduceLogged.2) :
    s.Writable := by
  rcases mem_steps_iff.mp h with ⟨p, hPart, hLast⟩
  cases p with
  | num n | var x => cases hLast
  | neg u =>
      rcases mem_negatedSteps.mp hLast with ⟨v, hReduce, rfl⟩
      have hOperand := writable_reduce_part hTree hYields
        (mem_parts_of_neg hPart)
      rw [hReduce] at hOperand
      exact hOperand
  | bin op l r =>
      rcases mem_joinSteps.mp hLast with
        ⟨a, b, n, hLeft, hRight, hExact, rfl⟩
      have hOperand : ∀ {q : Tree} {m : Int}, q ∈ t.parts →
          q.reduce.integer? = some m →
          Text.Writable m.natAbs := by
        intro q m hIn hInteger
        apply writable_reduce_part hTree hYields hIn
        rw [numbers_of_integer? hInteger]
        exact List.mem_singleton_self _
      rcases mem_parts_of_bin hPart with ⟨hPart₁, hPart₂⟩
      refine ⟨hOperand hPart₁ hLeft, hOperand hPart₂ hRight, ?_⟩
      apply hYields
      exact ⟨op, l, r, a, b, hPart, hLeft, hRight, hExact⟩

end Writing

/-
  All that a trace writes can be written, if the numbers of
  the tree and the integers that are yielded can be.
-/
theorem trace_writable_iff {t : Tree} :
    (t.Writable ∧ t.reduce.Writable ∧
      ∀ s ∈ t.reduceLogged.2, s.Writable) ↔
    t.Writable ∧ ∀ n, t.Yields n → Text.Writable n.natAbs := by
  constructor
  · rintro ⟨hTree, _, hSteps⟩
    refine ⟨hTree, ?_⟩
    intro n hFrom
    rcases hFrom.exists_step with ⟨op, a, b, hStep⟩
    exact (hSteps _ hStep).2.2
  · rintro ⟨hTree, hYields⟩
    refine ⟨hTree, ?_, ?_⟩
    · exact writable_reduce_part hTree hYields t.self_mem_parts
    · intro s hs
      exact writable_of_mem_steps hTree hYields hs

end Tree

------------------------------------------------------------
-- Steps That Are Written as They Are Taken
------------------------------------------------------------

/- Results that succeed alike are the same. -/
theorem Overlong.results_ext
    {α : Type}
    {x y : Except Overlong α}
    (h : ∀ a, x = .ok a ↔ y = .ok a) :
    x = y := by
  cases x with
  | ok a => exact ((h a).mp rfl).symm
  | error e =>
      cases y with
      | ok b => exact (h b).mpr rfl
      | error f =>
          cases e
          cases f
          rfl

/- What a tree is written as, if it is. -/
theorem Tree.toInfix_eq_ok_iff
    {t : Tree}
    {text : String} :
    t.toInfix = .ok text ↔
      t.Writable ∧ String.ofList t.infixChars = text := by
  rw [toInfix, writeBy]
  split
  · next hWritable => simp [hWritable]
  · next hWritable => simp [hWritable]

namespace Step

/- Write an operand of a step. -/
def writeOperand (n : Int) : Except Overlong String := do
  let digits ← Text.writeInteger n
  .ok (if n < 0 then "(" ++ digits ++ ")" else digits)

/- Write a step, one number after the other. -/
def write : Step → Except Overlong String
| collapsed op a b n => do
    let left ← writeOperand a
    let right ← writeOperand b
    let result ← Text.writeInteger n
    .ok (left ++ " " ++ String.ofList [op.sign] ++ " "
      ++ right ++ " = " ++ result)
| unnegated t => do
    let form ← t.toInfix
    .ok ("-(-" ++ form ++ ") = " ++ form)

/- What an operand is written as, if it is. -/
theorem writeOperand_eq_ok
    {n : Int}
    {text : String} :
    writeOperand n = .ok text ↔
      Text.Writable n.natAbs ∧
        String.ofList (operandChars n) = text := by
  have hForm :
      String.ofList (operandChars n) =
        if n < 0 then "(" ++ Text.integer n ++ ")"
        else Text.integer n := by
    unfold operandChars Text.integer
    split
    · rw [String.ofList_append, String.ofList_append]
    · rfl
  rw [writeOperand, bind_eq_ok, hForm]
  constructor
  · rintro ⟨digits, hDigits, hText⟩
    rcases Text.writeInteger_eq_ok.mp hDigits with
      ⟨hShort, rfl⟩
    exact ⟨hShort, Except.ok.inj hText⟩
  · rintro ⟨hShort, rfl⟩
    exact ⟨_, Text.writeInteger_eq_ok.mpr ⟨hShort, rfl⟩, rfl⟩

/- What a step is written as, if it is. -/
theorem write_eq_ok
    {s : Step}
    {text : String} :
    s.write = .ok text ↔ s.Writable ∧ s.text = text := by
  cases s with
  | collapsed op a b n =>
      have hForm :
          (collapsed op a b n).text =
            String.ofList (operandChars a) ++ " "
              ++ String.ofList [op.sign] ++ " "
              ++ String.ofList (operandChars b) ++ " = "
              ++ Text.integer n := by
        apply String.toList_injective
        simp [Step.text, chars, Text.integer]
      rw [hForm]
      simp only [write, bind_eq_ok, writeOperand_eq_ok,
        Text.writeInteger_eq_ok, Writable]
      constructor
      · rintro ⟨left, ⟨hLeft, rfl⟩, right, ⟨hRight, rfl⟩,
          result, ⟨hResult, rfl⟩, hText⟩
        exact ⟨⟨hLeft, hRight, hResult⟩, Except.ok.inj hText⟩
      · rintro ⟨⟨hLeft, hRight, hResult⟩, rfl⟩
        exact ⟨_, ⟨hLeft, rfl⟩, _, ⟨hRight, rfl⟩, _,
          ⟨hResult, rfl⟩, rfl⟩
  | unnegated t =>
      have hForm :
          (unnegated t).text =
            "-(-" ++ String.ofList t.infixChars ++ ") = "
              ++ String.ofList t.infixChars := by
        apply String.toList_injective
        simp [Step.text, chars]
      rw [hForm]
      simp only [write, bind_eq_ok, Tree.toInfix_eq_ok_iff,
        Writable]
      constructor
      · rintro ⟨form, ⟨hTree, rfl⟩, hText⟩
        exact ⟨hTree, Except.ok.inj hText⟩
      · rintro ⟨hTree, rfl⟩
        exact ⟨_, ⟨hTree, rfl⟩, rfl⟩

/- Write steps if they are kept; else nothing is written. -/
def noted
    (kept : Bool)
    (steps : List Step) : Except Overlong (List String) :=
  if kept then steps.mapM write else .ok []

/- Without keeping steps there is nothing to fail. -/
theorem noted_false (steps : List Step) :
    noted false steps = .ok [] :=
  rfl

/- Steps that are kept are written one by one. -/
theorem noted_true_eq_ok
    {steps : List Step}
    {texts : List String} :
    noted true steps = .ok texts ↔
      (∀ s ∈ steps, s.Writable) ∧
        steps.map Step.text = texts := by
  induction steps generalizing texts with
  | nil => simp [noted, pure, Except.pure]
  | cons s steps ih =>
      have hCons :
          noted true (s :: steps) = (do
            let text ← s.write
            let texts ← noted true steps
            .ok (text :: texts)) :=
        List.mapM_cons
      simp only [hCons, bind_eq_ok, write_eq_ok, ih,
        List.forall_mem_cons]
      constructor
      · rintro ⟨_, ⟨hFirst, rfl⟩, _, ⟨hRest, rfl⟩, hTexts⟩
        exact ⟨⟨hFirst, hRest⟩, Except.ok.inj hTexts⟩
      · rintro ⟨⟨hFirst, hRest⟩, rfl⟩
        exact ⟨_, ⟨hFirst, rfl⟩, _, ⟨hRest, rfl⟩, rfl⟩

/- Steps are noted after those that were taken before. -/
theorem noted_append_eq_ok
    {kept : Bool}
    {ss us : List Step}
    {texts : List String} :
    noted kept (ss ++ us) = .ok texts ↔
      ∃ before, noted kept ss = .ok before ∧
        ∃ after, noted kept us = .ok after ∧
          before ++ after = texts := by
  cases kept with
  | false => simp [noted]
  | true =>
      simp only [noted_true_eq_ok, List.forall_mem_append,
        List.map_append]
      constructor
      · rintro ⟨⟨hBefore, hAfter⟩, rfl⟩
        exact ⟨_, ⟨hBefore, rfl⟩, _, ⟨hAfter, rfl⟩, rfl⟩
      · rintro ⟨_, ⟨hBefore, rfl⟩, _, ⟨hAfter, rfl⟩, rfl⟩
        exact ⟨⟨hBefore, hAfter⟩, rfl⟩

end Step

namespace Tree

/-
  Reduce a tree and, if the steps are kept, write each of
  them as soon as it is taken.  The first step that cannot be
  written ends the reduction.
-/
def reduceNoting (kept : Bool) :
    Tree → Except Overlong (Tree × List String)
| num n => .ok (num n, [])
| var x => .ok (var x, [])
| neg t => do
    let (u, inner) ← t.reduceNoting kept
    let last ← Step.noted kept u.negatedSteps
    .ok (u.negated, inner ++ last)
| bin op l r => do
    let (u, left) ← l.reduceNoting kept
    let (v, right) ← r.reduceNoting kept
    let last ← Step.noted kept (joinSteps op u v)
    .ok (join op u v, left ++ right ++ last)

/-
  If it comes to its end it has led to the reduced tree, and
  it has written the steps of the reduction.
-/
theorem reduceNoting_eq_ok
    {kept : Bool}
    {t u : Tree}
    {texts : List String} :
    t.reduceNoting kept = .ok (u, texts) ↔
      u = t.reduce ∧
        Step.noted kept t.reduceLogged.2 = .ok texts := by
  induction t generalizing u texts with
  | num n | var x =>
      have hNone : Step.noted kept [] = .ok [] := by
        cases kept <;> rfl
      simp [reduceNoting, reduceLogged, reduce, hNone, eq_comm]
  | neg t ih =>
      rw [reduceLogged_neg_snd, reduceNoting, bind_eq_ok]
      constructor
      · rintro ⟨⟨v, inner⟩, hInner, hRest⟩
        rcases ih.mp hInner with ⟨rfl, hBefore⟩
        rcases bind_eq_ok.mp hRest with ⟨last, hLast, hAll⟩
        cases hAll
        refine ⟨rfl, Step.noted_append_eq_ok.mpr ?_⟩
        exact ⟨inner, hBefore, last, hLast, rfl⟩
      · rintro ⟨rfl, hSteps⟩
        rcases Step.noted_append_eq_ok.mp hSteps with
          ⟨inner, hBefore, last, hLast, rfl⟩
        refine ⟨_, ih.mpr ⟨rfl, hBefore⟩, ?_⟩
        exact bind_eq_ok.mpr ⟨last, hLast, rfl⟩
  | bin op l r ihLeft ihRight =>
      rw [reduceLogged_bin_snd, reduceNoting, bind_eq_ok]
      constructor
      · rintro ⟨⟨v, left⟩, hLeft, hRest⟩
        rcases bind_eq_ok.mp hRest with
          ⟨⟨w, right⟩, hRight, hRest₂⟩
        rcases ihLeft.mp hLeft with ⟨rfl, hSteps⟩
        rcases ihRight.mp hRight with ⟨rfl, hSteps₂⟩
        rcases bind_eq_ok.mp hRest₂ with ⟨last, hLast, hAll⟩
        cases hAll
        refine ⟨rfl, Step.noted_append_eq_ok.mpr ?_⟩
        refine ⟨left ++ right, ?_, last, hLast, rfl⟩
        apply Step.noted_append_eq_ok.mpr
        exact ⟨left, hSteps, right, hSteps₂, rfl⟩
      · rintro ⟨rfl, hSteps⟩
        rcases Step.noted_append_eq_ok.mp hSteps with
          ⟨_, hBefore, last, hLast, rfl⟩
        rcases Step.noted_append_eq_ok.mp hBefore with
          ⟨left, hLeft, right, hRight, rfl⟩
        refine ⟨_, ihLeft.mpr ⟨rfl, hLeft⟩, ?_⟩
        apply bind_eq_ok.mpr
        refine ⟨_, ihRight.mpr ⟨rfl, hRight⟩, ?_⟩
        exact bind_eq_ok.mpr ⟨last, hLast, rfl⟩

/- Without keeping steps nothing can end it early. -/
theorem reduceNoting_false (t : Tree) :
    t.reduceNoting false = .ok (t.reduce, []) :=
  reduceNoting_eq_ok.mpr ⟨rfl, Step.noted_false _⟩

/-
  Reduce a tree and write each step as it is taken, and then
  the tree and the reduced tree.
-/
def traceNoting (t : Tree) : Except Overlong Trace := do
  let (u, steps) ← t.reduceNoting true
  let _ ← t.toInfix
  let _ ← u.toInfix
  .ok ⟨u, steps⟩

/-
  A trace is what a reduction leads to that writes its steps
  as it takes them.
-/
theorem trace_eq_noting (t : Tree) :
    t.trace = t.traceNoting := by
  apply Overlong.results_ext
  intro r
  rw [trace_eq_ok, traceNoting, bind_eq_ok]
  constructor
  · rintro ⟨⟨hTree, hReduced, hSteps⟩, rfl⟩
    have hNoted := Step.noted_true_eq_ok.mpr ⟨hSteps, rfl⟩
    refine ⟨_, reduceNoting_eq_ok.mpr ⟨rfl, hNoted⟩, ?_⟩
    apply bind_eq_ok.mpr
    refine ⟨_, toInfix_eq_ok_iff.mpr ⟨hTree, rfl⟩, ?_⟩
    apply bind_eq_ok.mpr
    exact ⟨_, toInfix_eq_ok_iff.mpr ⟨hReduced, rfl⟩, rfl⟩
  · rintro ⟨⟨u, texts⟩, hNoting, hRest⟩
    rcases reduceNoting_eq_ok.mp hNoting with ⟨rfl, hNoted⟩
    rcases Step.noted_true_eq_ok.mp hNoted with ⟨hSteps, rfl⟩
    rcases bind_eq_ok.mp hRest with ⟨_, hTree, hRest₂⟩
    rcases bind_eq_ok.mp hRest₂ with ⟨_, hReduced, hResult⟩
    rw [toInfix_eq_ok_iff] at hTree hReduced
    cases hResult
    exact ⟨⟨hTree.1, hReduced.1, hSteps⟩, rfl⟩

------------------------------------------------------------
-- Traces
------------------------------------------------------------

/-
  A trace succeeds just if every number of the tree, and
  every integer that an operation is collapsed to on the way,
  has at most 4300 digits.  What it leads to is the reduced
  tree.  If it does not succeed then a number was too long to
  be written.  It does not matter that the steps are written
  one by one, on the way.  The same reduction without its
  steps always comes to its end.
-/
theorem trace_or_overlong (t : Tree) :
    ((∃ r, t.trace = .ok r) ↔
      (∀ n ∈ t.numbers, (Text.numeral n).length ≤ 4300) ∧
      ∀ n, t.Yields n →
        (Text.numeral n.natAbs).length ≤ 4300) ∧
    (∀ r, t.trace = .ok r → r.result = t.reduce) ∧
    ((¬ ∃ r, t.trace = .ok r) ↔
      t.trace = .error .number) ∧
    t.trace = t.traceNoting ∧
    t.reduceNoting false = .ok (t.reduce, []) := by
  have hDigits : ∀ n : Nat,
      (Text.numeral n).length ≤ 4300 ↔ Text.Writable n :=
    fun n => Text.length_numeral_le_iff (by decide)
  refine ⟨?_, ?_, ?_, t.trace_eq_noting,
    t.reduceNoting_false⟩
  · simp only [hDigits]
    apply Iff.trans _ trace_writable_iff
    constructor
    · rintro ⟨r, hTrace⟩
      exact (trace_eq_ok.mp hTrace).1
    · intro hWritable
      exact ⟨_, trace_eq_ok.mpr ⟨hWritable, rfl⟩⟩
  · intro r hTrace
    rw [(trace_eq_ok.mp hTrace).2]
  · cases hTrace : t.trace with
    | ok r => simp
    | error f =>
        cases f
        simp

/-
  Of a power of ten with 2201 digits the square is too long.
  Taken from itself it leaves zero, and yet the trace fails.
-/
theorem trace_or_overlong_square :
    let n := tenTo 2200
    let t := bin .sub (bin .mul (num n) (num n))
      (bin .mul (num n) (num n))
    (∀ m ∈ t.numbers, (Text.numeral m).length ≤ 4300) ∧
      t.Yields (n * n) ∧
      t.trace = .error .number ∧
      t.reduceNoting false = .ok (t.reduce, []) := by
  intro n t
  have hNumbers :
      ∀ m ∈ t.numbers, (Text.numeral m).length ≤ 4300 := by
    intro m hm
    rw [List.eq_of_mem_replicate (n := 4) hm,
      Text.length_numeral_le_iff (by decide)]
    decide +kernel
  have hYields : t.Yields (n * n) := by
    refine ⟨.mul, num n, num n, n, n, ?_, rfl, rfl, rfl⟩
    apply mem_parts_bin.mpr
    exact .inr (.inl (self_mem_parts _))
  have hLong :
      ¬ (Text.numeral (n * n : Int).natAbs).length ≤ 4300 := by
    rw [Int.natAbs_mul,
      Text.length_numeral_le_iff (by decide)]
    decide +kernel
  rcases trace_or_overlong t with
    ⟨hIff, _, hError, _, hReduced⟩
  refine ⟨hNumbers, hYields, hError.mp ?_, hReduced⟩
  intro hTrace
  exact hLong ((hIff.mp hTrace).2 _ hYields)

end Tree

end Termwise
