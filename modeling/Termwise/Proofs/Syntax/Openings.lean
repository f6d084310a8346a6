import Termwise.Proofs.Syntax.Unambiguity
import Termwise.Syntax.Openings

/-
  What is open along the lexemes of an expression: behind a
  derivation as much as before it without the signs in front
  of it, and inside it at most as much more as it opens.

  Key definitions include:
    * `Opened.Within`
    * `Stage.opened`

  Main declarations:
    * `Opened.within_append`
    * `Derives.afterAll_eq`
    * `Derives.within`
    * `Stage.opened_run`
-/

namespace Termwise

namespace Opened

------------------------------------------------------------
-- Bounds Along Lexemes
------------------------------------------------------------

/- Lexemes are gone through one part after the other. -/
theorem afterAll_append
    (o : Opened)
    (ls ks : List Lexeme) :
    o.afterAll (ls ++ ks) = (o.afterAll ls).afterAll ks :=
  List.foldl_append

/-
  Wherever one stops among some lexemes, no more than `limit`
  minus signs and parentheses are open.
-/
def Within
    (limit : Nat)
    (o : Opened)
    (ls : List Lexeme) : Prop :=
  ∀ ks, ks <+: ls → (o.afterAll ks).count ≤ limit

section Within

variable {limit : Nat} {o : Opened} {l : Lexeme}

variable {ls ks : List Lexeme}

/- Without lexemes only what is open already counts. -/
theorem within_nil :
    o.Within limit [] ↔ o.count ≤ limit := by
  constructor
  · intro h
    exact h [] (List.prefix_refl [])
  · intro h js hPrefix
    rw [List.prefix_nil.mp hPrefix]
    exact h

/- A lexeme is a place more to stop. -/
theorem within_cons :
    o.Within limit (l :: ls) ↔
      o.count ≤ limit ∧ (o.after l).Within limit ls := by
  constructor
  · intro h
    refine ⟨h [] List.nil_prefix, ?_⟩
    intro js hPrefix
    exact h (l :: js) ((List.prefix_cons_inj l).mpr hPrefix)
  · rintro ⟨hFirst, hRest⟩ js hPrefix
    cases js with
    | nil => exact hFirst
    | cons k js =>
        rcases List.cons_prefix_cons.mp hPrefix with
          ⟨rfl, hRestPrefix⟩
        exact hRest js hRestPrefix

/- Lexemes in a row keep a bound if each part does. -/
theorem within_append :
    o.Within limit (ls ++ ks) ↔
      o.Within limit ls ∧
        (o.afterAll ls).Within limit ks := by
  induction ls generalizing o with
  | nil =>
      rw [List.nil_append, within_nil]
      constructor
      · intro h
        exact ⟨h [] List.nil_prefix, h⟩
      · intro h
        exact h.2
  | cons l ls ih =>
      rw [List.cons_append, within_cons, within_cons, ih,
        and_assoc]
      rfl

/- One lexeme keeps a bound that holds on both sides of it. -/
theorem within_singleton :
    o.Within limit [l] ↔
      o.count ≤ limit ∧ (o.after l).count ≤ limit := by
  rw [within_cons, within_nil]

end Within

end Opened

------------------------------------------------------------
-- Derivations
------------------------------------------------------------

/- Behind what is derived nothing of its own is open. -/
theorem Derives.afterAll_eq
    {level : Level}
    {ls : List Lexeme}
    {t : Tree}
    {n : Nat}
    (h : Derives level ls t n)
    {o : Opened}
    (hDue : o.isDue = true) :
    o.afterAll ls = ⟨false, 0, o.outer⟩ := by
  induction h generalizing o with
  | number digits | name letters => rfl
  | negation _ ih =>
      have hSign :
          o.after (.op .sub) =
            ⟨true, o.signs + 1, o.outer⟩ :=
        if_pos hDue
      show (o.after (.op .sub)).afterAll _ = _
      rw [hSign, ih rfl]
  | parentheses _ ih =>
      rw [Opened.afterAll_append]
      show (Opened.afterAll ⟨true, 0, o.signs :: o.outer⟩
        _).afterAll _ = _
      rw [ih rfl]
      rfl
  | factor _ ih | term _ ih => exact ih hDue
  | times operator hOp _ _ ihLeft ihRight
  | plus operator hOp _ _ ihLeft ihRight =>
      rw [Opened.afterAll_append, ihLeft hDue]
      rcases hOp with rfl | rfl
      · exact ihRight (o := ⟨true, 0, o.outer⟩) rfl
      · exact ihRight (o := ⟨true, 0, o.outer⟩) rfl

/-
  A bound that allows what is open in front of a derivation,
  and all that the derivation opens, is kept inside it.
-/
theorem Derives.within
    {level : Level}
    {ls : List Lexeme}
    {t : Tree}
    {n : Nat}
    (h : Derives level ls t n)
    {limit : Nat}
    {o : Opened}
    (hDue : o.isDue = true)
    (hLimit : o.count + n ≤ limit) :
    o.Within limit ls := by
  have hOuter :
      (⟨false, 0, o.outer⟩ : Opened).count ≤ o.count := by
    simp only [Opened.count]
    omega
  induction h generalizing o with
  | number digits | name letters =>
      exact Opened.within_singleton.mpr
        ⟨hLimit, Nat.le_trans hOuter hLimit⟩
  | negation _ ih =>
      have hSign :
          o.after (.op .sub) =
            ⟨true, o.signs + 1, o.outer⟩ :=
        if_pos hDue
      rw [Opened.within_cons, hSign]
      refine ⟨by omega, ih rfl ?_ ?_⟩
      · simp only [Opened.count] at hLimit ⊢
        omega
      · simp only [Opened.count]
        omega
  | parentheses hInner ih =>
      have hInside :
          (⟨true, 0, o.signs :: o.outer⟩ : Opened).count =
            o.count + 1 := by
        simp only [Opened.count, List.map_cons, List.sum_cons]
        omega
      rw [List.cons_append, Opened.within_cons,
        Opened.within_append]
      refine ⟨by omega, ih rfl ?_ (Nat.le_refl _), ?_⟩
      · show (⟨true, 0, o.signs :: o.outer⟩ : Opened).count
          + _ ≤ limit
        omega
      · have hBehind := hInner.afterAll_eq
          (o := o.after .opening) rfl
        rw [hBehind, Opened.within_singleton]
        refine ⟨Nat.le_trans (Nat.le_of_eq hInside) ?_,
          Nat.le_trans hOuter ?_⟩
        · omega
        · omega
  | factor _ ih | term _ ih => exact ih hDue hLimit hOuter
  | times operator hOp hLeft _ ihLeft ihRight
  | plus operator hOp hLeft _ ihLeft ihRight =>
      have hOperator :
          (⟨false, 0, o.outer⟩ : Opened).after (.op operator) =
            ⟨true, 0, o.outer⟩ := by
        rcases hOp with rfl | rfl
        · rfl
        · rfl
      rw [Opened.within_append, hLeft.afterAll_eq hDue,
        Opened.within_cons, hOperator]
      refine ⟨ihLeft hDue (by omega) hOuter, by omega,
        ihRight rfl ?_ (Nat.le_refl _)⟩
      show (⟨false, 0, o.outer⟩ : Opened).count + _ ≤ limit
      omega

------------------------------------------------------------
-- Stages
------------------------------------------------------------

namespace Stage

/- What is open at a stage of the reading with a stack. -/
def opened : Stage → Opened
| due f outer => ⟨true, f.minuses, outer.map Front.minuses⟩
| complete _ _ outer => ⟨false, 0, outer.map Front.minuses⟩

/- A step opens and closes what its lexeme does. -/
theorem opened_next
    {s s₁ : Stage}
    {l : Lexeme}
    (h : s.next l = some s₁) :
    s₁.opened = s.opened.after l := by
  cases s with
  | due f outer =>
      cases l with
      | number | name | opening =>
          cases h
          rfl
      | op o =>
          cases o with
          | sub =>
              cases h
              rfl
          | add | mul | div => cases h
      | closing => cases h
  | complete sum product outer =>
      cases l with
      | op o =>
          cases o with
          | add | sub | mul | div =>
              cases h
              rfl
      | closing =>
          cases outer with
          | nil => cases h
          | cons f outer =>
              cases h
              rfl
      | number | name | opening => cases h

/- A run opens and closes what its lexemes do. -/
theorem opened_run
    {s s₁ : Stage}
    {ls : List Lexeme}
    (h : s.run ls = some s₁) :
    s₁.opened = s.opened.afterAll ls := by
  induction ls generalizing s with
  | nil =>
      cases h
      rfl
  | cons l ls ih =>
      rcases Option.bind_eq_some_iff.mp h with
        ⟨s₂, hNext, hRest⟩
      rw [ih hRest, opened_next hNext]
      rfl

end Stage

end Termwise
