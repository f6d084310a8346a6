import Mathlib.Data.List.Basic
import Termwise.Proofs.Print.BareForm
import Termwise.Proofs.Reduction.Steps
import Termwise.Proofs.Syntax.Lexemes

/-
  The steps of a trace are written as equations whose sides
  are read as trees, and these have the same reduced tree.

  Key definitions include:
    * `Step.rightChars`

  Main declarations:
    * `Step.chars_eq`
    * `Step.parse_left`
    * `Step.parse_right`
    * `equation_unique`
    * `Tree.trace_equations`
-/

namespace Termwise

------------------------------------------------------------
-- Integers
------------------------------------------------------------

namespace Tree

/- The numbers of the tree of an integer. -/
theorem numbers_ofInt (n : Int) :
    (ofInt n).numbers = [n.natAbs] :=
  numbers_of_integer? (integer?_ofInt n)

/- It can be written if the integer has few enough digits. -/
theorem writable_ofInt
    {n : Int}
    (h : Text.Writable n.natAbs) :
    (ofInt n).Writable := by
  intro m hm
  rw [numbers_ofInt, List.mem_singleton] at hm
  rw [hm]
  exact h

/- An integer is written like its tree, less parentheses. -/
theorem bareChars_ofInt (n : Int) :
    (ofInt n).bareChars = Text.integerChars n := by
  cases n with
  | ofNat n => rfl
  | negSucc n => rfl

/- An operand is written like its tree, with parentheses. -/
theorem infixChars_ofInt (n : Int) :
    (ofInt n).infixChars = Step.operandChars n := by
  cases n with
  | ofNat n =>
      exact (if_neg (Int.not_lt.mpr (Int.natCast_nonneg n))).symm
  | negSucc n => exact (if_pos (Int.negSucc_lt_zero n)).symm

end Tree

------------------------------------------------------------
-- Sides of an Equation
------------------------------------------------------------

namespace Step

/-
  The right side as it is written.  Only a tree that was
  negated twice keeps its outermost parentheses.
-/
def rightChars : Step → List Char
| collapsed _ _ _ n => (Tree.ofInt n).bareChars
| unnegated t => t.infixChars

/- A step is written as its sides and a sign between them. -/
theorem chars_eq (s : Step) :
    s.chars =
      s.left.bareChars ++ [' ', '=', ' '] ++ s.rightChars := by
  cases s with
  | collapsed op a b n =>
      rw [chars, left, rightChars, Tree.bareChars,
        Tree.bareChars_ofInt, ← Tree.infixChars_ofInt,
        ← Tree.infixChars_ofInt]
      simp only [List.append_assoc, List.cons_append,
        List.nil_append]
  | unnegated t =>
      rw [chars, left, rightChars, Tree.bareChars,
        Tree.infixChars]
      simp only [List.append_assoc, List.cons_append,
        List.nil_append]

/- A step that can be written has writable sides. -/
theorem writable_sides
    {s : Step}
    (h : s.Writable) :
    s.left.Writable ∧ s.right.Writable := by
  cases s with
  | collapsed op a b n =>
      rcases h with ⟨hLeft, hRight, hResult⟩
      refine ⟨?_, Tree.writable_ofInt hResult⟩
      intro m hm
      rcases List.mem_append.mp hm with hFirst | hSecond
      · exact Tree.writable_ofInt hLeft m hFirst
      · exact Tree.writable_ofInt hRight m hSecond
  | unnegated t => exact ⟨h, h⟩

section Reading

variable {s : Step} {t : Tree}

variable (hWithin : s.Within t) (hWritable : s.Writable)

variable (hNames : t.Lettered)

variable (hDepth : 2 * t.depth ≤ depthLimit + 2)

include hWithin hWritable hNames hDepth

/- The left side is read as its tree. -/
theorem parse_left :
    parse (String.ofList s.left.bareChars) = .ok s.left := by
  have hNames₂ : s.left.Lettered := fun x hx =>
    hNames x (hWithin.names hx)
  have hLevels := hWithin.depth
  exact Tree.parse_bare hNames₂ (writable_sides hWritable).1
    (by omega)

/- The right side is read as its tree. -/
theorem parse_right :
    parse (String.ofList s.rightChars) = .ok s.right := by
  have hNames₂ : s.right.Lettered := fun x hx =>
    hNames x (hWithin.names (s.names_right_subset hx))
  have hNumbers := (writable_sides hWritable).2
  have hLevels : 2 * s.right.depth ≤ depthLimit + 2 := by
    have hRight := s.depth_right_le
    have hLeft := hWithin.depth
    omega
  cases s with
  | collapsed op a b n =>
      exact Tree.parse_bare hNames₂ hNumbers hLevels
  | unnegated u =>
      exact Tree.parse_infix hNames₂ hNumbers hLevels

end Reading

end Step

------------------------------------------------------------
-- Equations
------------------------------------------------------------

/- A text that is read has no sign of equality. -/
theorem not_mem_of_parse
    {text : String}
    {t : Tree}
    (h : parse text = .ok t) :
    '=' ∉ text.toList := by
  rcases parse_eq_ok.mp h with ⟨ts, hTokens, _⟩
  intro hMem
  have hLegible := legible_of_tokensFrom hTokens '=' hMem
  exact absurd hLegible (by decide)

/- Between two texts that are read an equation has one sign. -/
theorem equation_unique
    {left right l r : String}
    {u v : Tree}
    (hLeft : parse left = .ok u)
    (hRight : parse right = .ok v)
    (h : left ++ " = " ++ right = l ++ " = " ++ r) :
    l = left ∧ r = right := by
  have hChars : ∀ x y : String,
      (x ++ " = " ++ y).toList =
        (x.toList ++ [' ']) ++ '=' :: (' ' :: y.toList) := by
    intro x y
    rw [String.toList_append, String.toList_append,
      List.append_assoc, List.append_assoc]
    rfl
  have hNone : '=' ∉ left.toList ++ [' '] := by
    rw [List.mem_append, not_or]
    exact ⟨not_mem_of_parse hLeft, by decide⟩
  have hNone₂ : '=' ∉ ' ' :: right.toList := by
    rw [List.mem_cons, not_or]
    exact ⟨by decide, not_mem_of_parse hRight⟩
  have hSame := congrArg String.toList h
  rw [hChars, hChars,
    List.append_cons_inj_of_notMem hNone hNone₂] at hSame
  rcases hSame with ⟨hFirst, _, hSecond⟩
  exact ⟨String.toList_injective
      (List.append_cancel_right hFirst).symm,
    String.toList_injective (List.cons.inj hSecond).2.symm⟩

/-
  Every step of a trace is an equation.  It has one sign of
  equality, both of its sides are read as trees, and those
  two trees reduce to the same tree.  The tree that is traced
  has words for names and half as many levels as may be read,
  since an infix form may open two levels for each.
-/
theorem Tree.trace_equations
    {t : Tree}
    {r : Trace}
    (hNames : t.Lettered)
    (hDepth : t.depth ≤ 75)
    (hTrace : t.trace = .ok r) :
    ∀ s ∈ r.steps, ∃ left right u v,
      s = left ++ " = " ++ right ∧
      (∀ l k, s = l ++ " = " ++ k → l = left ∧ k = right) ∧
      parse left = .ok u ∧
      parse right = .ok v ∧
      u.reduce = v.reduce := by
  rcases trace_eq_ok.mp hTrace with ⟨⟨_, _, hWritable⟩, rfl⟩
  intro text hText
  rcases List.mem_map.mp hText with ⟨s, hStep, rfl⟩
  have hWithin := within_of_mem_steps hStep
  have hLevels : 2 * t.depth ≤ depthLimit + 2 := by
    show 2 * t.depth ≤ 150 + 2
    omega
  have hLeft := Step.parse_left hWithin (hWritable s hStep)
    hNames hLevels
  have hRight := Step.parse_right hWithin (hWritable s hStep)
    hNames hLevels
  have hSplit : s.text =
      String.ofList s.left.bareChars ++ " = "
        ++ String.ofList s.rightChars := by
    rw [Step.text, Step.chars_eq, String.ofList_append,
      String.ofList_append]
  refine ⟨_, _, s.left, s.right, hSplit, ?_, hLeft, hRight,
    Step.reduce_left hWithin⟩
  intro l k hOther
  exact equation_unique hLeft hRight (hSplit.symm.trans hOther)

/-
  The difference of a product and a quotient of integers,
  negated twice with a variable added, has steps of each
  kind.
-/
theorem Tree.trace_equations_each :
    let t := neg (neg (bin .add
      (bin .sub (bin .mul (neg (num 3)) (num 4))
        (bin .div (num 12) (neg (num 4))))
      (var "x")))
    t.Lettered ∧ t.depth ≤ 75 ∧
      ∃ r, t.trace = .ok r ∧ r.steps.length = 4 ∧
        ∀ s ∈ r.steps, ∃ left right u v,
          s = left ++ " = " ++ right ∧
          (∀ l k, s = l ++ " = " ++ k →
            l = left ∧ k = right) ∧
          parse left = .ok u ∧
          parse right = .ok v ∧
          u.reduce = v.reduce := by
  intro t
  have hNames : t.Lettered := by decide
  have hDepth : t.depth ≤ 75 := by decide
  have hTrace : ∃ r, t.trace = .ok r ∧ r.steps.length = 4 := by
    refine ⟨⟨t.reduce, t.reduceLogged.2.map Step.text⟩, ?_,
      by decide⟩
    exact trace_eq_ok.mpr ⟨by decide +kernel, rfl⟩
  rcases hTrace with ⟨r, hTrace, hSteps⟩
  exact ⟨hNames, hDepth, r, hTrace, hSteps,
    trace_equations hNames hDepth hTrace⟩

end Termwise
