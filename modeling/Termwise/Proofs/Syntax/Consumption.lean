import Termwise.Proofs.Syntax.Readers
import Termwise.Syntax.Indexed

/-
  The readers take the tokens one after the other.  Wherever
  they start they come to an end after few turns, they never
  reach for a token that is not there, and when they return a
  tree they have taken every token that they have passed
  once, and have closed whatever they had opened.

  Key definitions include:
    * `Indexed.Place.cursor`
    * `Indexed.Passes`
    * `Indexed.Agrees`
    * `Indexed.Disciplined`

  Main declarations:
    * `Indexed.agree`
    * `Indexed.climb_stops`
    * `Indexed.readers_disciplined`
-/

namespace Termwise

namespace Indexed

variable {ts : List Token} {p q r : Place} {token : Token}

------------------------------------------------------------
-- Places
------------------------------------------------------------

namespace Place

/- The cursor that stands at a place. -/
def cursor (ts : List Token) (p : Place) : Cursor :=
  ⟨ts.drop p.index, p.nesting⟩

/- Behind the last token there is nothing to read. -/
theorem cursor_of_none
    (h : p.token? ts = none) :
    p.cursor ts = ⟨[], p.nesting⟩ := by
  have hBehind : ts.length ≤ p.index :=
    List.getElem?_eq_none_iff.mp h
  rw [cursor, List.drop_eq_nil_of_le hBehind]

/- The next token is in front of the tokens after it. -/
theorem cursor_of_some
    (h : p.token? ts = some token) :
    p.cursor ts =
      ⟨token :: ts.drop (p.index + 1), p.nesting⟩ := by
  rcases List.getElem?_eq_some_iff.mp h with ⟨hIndex, hToken⟩
  rw [cursor, List.drop_eq_getElem_cons hIndex, hToken]

/- A cursor stands before the operator that is next. -/
theorem operator?_cursor :
    (p.cursor ts).operator? = p.operator? ts := by
  cases hToken : p.token? ts with
  | none =>
      rw [cursor_of_none hToken, operator?, hToken]
      rfl
  | some token =>
      rw [cursor_of_some hToken, operator?, hToken]
      rfl

/- A token is taken where there is one. -/
theorem take_of_some
    (h : p.token? ts = some token) :
    p.take ts = .ok (token, p.next) := by
  rw [take, h]

/- An operator is next where its token is. -/
theorem exists_token
    {o : Op}
    (h : p.operator? ts = some o) :
    ∃ position, p.token? ts = some ⟨.op o, position⟩ := by
  unfold operator? at h
  cases hToken : p.token? ts with
  | none =>
      rw [hToken] at h
      cases h
  | some token =>
      rcases token with ⟨lexeme, position⟩
      rw [hToken] at h
      cases lexeme with
      | op o' =>
          cases h
          exact ⟨position, rfl⟩
      | number | name | opening | closing => cases h

/- With fewer tokens left a place is further on. -/
theorem index_lt
    (h : (q.cursor ts).rest.length <
      (p.cursor ts).rest.length) :
    p.index < q.index := by
  simp only [cursor, List.length_drop] at h
  omega

/- What was opened for a while is closed afterwards. -/
theorem nesting_leave
    (h : q.nesting = p.next.deeper.nesting) :
    q.leave.nesting = p.nesting := by
  rw [leave, h]
  exact Nat.add_sub_cancel p.nesting 1

end Place

------------------------------------------------------------
-- Passing Tokens
------------------------------------------------------------

/-
  Between two places every token was taken once, and in the
  order of the tokens.
-/
structure Passes
    (ts : List Token)
    (p q : Place) : Prop where
  forward : p.index ≤ q.index
  within : q.index ≤ ts.length
  once : q.taken =
    p.taken ++ List.range' p.index (q.index - p.index)

namespace Passes

/- Nothing is taken on the spot. -/
theorem refl (h : p.index ≤ ts.length) : Passes ts p p where
  forward := Nat.le_refl _
  within := h
  once := by
    rw [Nat.sub_self, List.range'_zero, List.append_nil]

/- What is taken on two ways is taken on both together. -/
theorem trans
    (h : Passes ts p q)
    (h' : Passes ts q r) :
    Passes ts p r where
  forward := Nat.le_trans h.forward h'.forward
  within := h'.within
  once := by
    have hFirst := h.forward
    have hSecond := h'.forward
    have hMiddle :
        p.index + (q.index - p.index) = q.index := by
      omega
    have hWhole :
        r.index - p.index =
          (q.index - p.index) + (r.index - q.index) := by
      omega
    rw [h'.once, h.once, List.append_assoc, hWhole,
      ← List.range'_append_1, hMiddle]

/- To take the next token is to pass it. -/
theorem next
    (h : p.token? ts = some token) :
    Passes ts p p.next where
  forward := Nat.le_succ _
  within := (List.getElem?_eq_some_iff.mp h).1
  once := by
    rw [Place.next, Nat.add_sub_cancel_left]
    rfl

/-
  A token that opens something is passed together with what
  is passed while it is open.
-/
theorem around
    (hToken : Passes ts p p.next)
    (h : Passes ts p.next.deeper q) :
    Passes ts p q.leave :=
  hToken.trans
    { forward := h.forward
      within := h.within
      once := h.once }

end Passes

------------------------------------------------------------
-- Readers That Agree
------------------------------------------------------------

/-
  A reader that counts tokens, starting at `p`, has returned
  what a reader of cursors has returned: the same fault, or
  the same tree and the same place.  It has passed all the
  tokens in between, and as much is open as before.
-/
inductive Agrees
    (ts : List Token)
    (p : Place) :
    Except Stop (Tree × Place) →
    Except SyntaxFault (Tree × Cursor) → Prop where
| fault (f : SyntaxFault) :
    Agrees ts p (.error (.fault f)) (.error f)
| found
    {t : Tree}
    {q : Place} :
    Passes ts p q →
    q.nesting = p.nesting →
    Agrees ts p (.ok (t, q)) (.ok (t, q.cursor ts))

/-
  What a reader of cursors returns determines what a reader
  that agrees with it has returned.
-/
theorem Agrees.unique
    {x x' : Except Stop (Tree × Place)}
    {y : Except SyntaxFault (Tree × Cursor)}
    (h : Agrees ts p x y)
    (h' : Agrees ts p x' y) :
    x = x' := by
  cases h with
  | fault f =>
      cases h'
      rfl
  | @found t q hPasses hNesting =>
      generalize hCursor : q.cursor ts = c at h'
      cases h' with
      | @found _ q' hPasses' hNesting' =>
          have hIndex : q.index = q'.index := by
            have hLength := congrArg
              (fun c : Cursor => c.rest.length) hCursor
            have hWithin := hPasses.within
            have hWithin' := hPasses'.within
            simp only [Place.cursor, List.length_drop]
              at hLength
            omega
          have hTaken : q.taken = q'.taken := by
            rw [hPasses.once, hPasses'.once, hIndex]
          rcases q with ⟨index, nesting, taken⟩
          rcases q' with ⟨index', nesting', taken'⟩
          cases hIndex
          cases hTaken
          cases hNesting.trans hNesting'.symm
          rfl

namespace Agrees

/-
  Readers agree on what follows if they go on to agree from
  wherever they have come to.
-/
theorem bind
    {x : Except Stop (Tree × Place)}
    {y : Except SyntaxFault (Tree × Cursor)}
    {f : Tree × Place → Except Stop (Tree × Place)}
    {g : Tree × Cursor → Except SyntaxFault (Tree × Cursor)}
    (h : Agrees ts q x y)
    (hNext : ∀ t r, y = .ok (t, r.cursor ts) →
      Passes ts q r → r.nesting = q.nesting →
      Agrees ts p (f (t, r)) (g (t, r.cursor ts))) :
    Agrees ts p (x >>= f) (y >>= g) := by
  cases h with
  | fault f => exact .fault f
  | found hPasses hNesting =>
      exact hNext _ _ rfl hPasses hNesting

/- A reader that goes on from a later place is further on. -/
theorem after
    {x : Except Stop (Tree × Place)}
    {y : Except SyntaxFault (Tree × Cursor)}
    (h : Agrees ts q x y)
    (hPasses : Passes ts p q)
    (hNesting : q.nesting = p.nesting) :
    Agrees ts p x y := by
  cases h with
  | fault f => exact .fault f
  | found hLater hKept =>
      exact .found (hPasses.trans hLater)
        (hKept.trans hNesting)

/- A token that opens something does so within the limit. -/
theorem enter
    {body : Place → Except Stop (Tree × Place)}
    {y : Except SyntaxFault (Tree × Cursor)}
    (token : Token)
    (h : p.nesting < depthLimit →
      Agrees ts p (body p.next.deeper) y) :
    Agrees ts p (p.next.enter token >>= body)
      (if p.nesting < depthLimit then y
        else .error (.nested token)) := by
  by_cases hNesting : p.nesting < depthLimit
  · have hEnter : p.next.enter token = .ok p.next.deeper :=
      if_neg (Nat.not_lt.mpr hNesting)
    rw [hEnter, if_pos hNesting]
    exact h hNesting
  · have hEnter :
        p.next.enter token = .error (.fault (.nested token)) :=
      if_pos (Nat.lt_succ_of_le (Nat.not_lt.mp hNesting))
    rw [hEnter, if_neg hNesting]
    exact .fault _

/- A parenthesis that is missing is missed by both readers. -/
theorem close
    (t : Tree)
    (hPasses : Passes ts p q.leave)
    (hNesting : q.leave.nesting = p.nesting) :
    Agrees ts p
      (q.leave.close ts >>= fun r => .ok (t, r))
      (readClosing (q.cursor ts) >>= fun c =>
        .ok (t, ⟨c.rest, c.nesting - 1⟩)) := by
  cases hToken : q.leave.token? ts with
  | none =>
      have hCursor := Place.cursor_of_none (p := q) hToken
      rw [Place.close, hToken, hCursor]
      exact .fault _
  | some token =>
      have hCursor := Place.cursor_of_some (p := q) hToken
      rw [Place.close, hToken, hCursor]
      by_cases hClosing : token.lexeme = .closing
      · simp only [hClosing, if_true, readClosing, takeClosing,
          Place.take_of_some hToken]
        exact .found (hPasses.trans (.next hToken)) hNesting
      · simp only [hClosing, if_false, readClosing, takeClosing]
        exact .fault _

end Agrees

------------------------------------------------------------
-- One Turn
------------------------------------------------------------

/-
  With a number of turns the readers agree wherever so few
  tokens are left that the turns are enough.
-/
structure Agree (ts : List Token) (turns : Nat) : Prop where
  operand : ∀ p : Place,
    2 * (ts.length - p.index) < turns →
    Agrees ts p (operand ts turns p)
      (readOperand (p.cursor ts))
  expression : ∀ (power : Nat) (p : Place),
    2 * (ts.length - p.index) + 1 < turns →
    Agrees ts p (expression ts turns power p)
      (readExpression power (p.cursor ts))
  climb : ∀ (power : Nat) (left : Tree) (p : Place),
    p.index ≤ ts.length →
    2 * (ts.length - p.index) < turns →
    Agrees ts p (climb ts turns power left p)
      (readClimb power left (p.cursor ts))

namespace Agree

variable {turns : Nat}

/-
  An operand takes a token, and the operand or expression
  that may be inside it starts behind that token.
-/
theorem operand_succ
    (h : Agree ts turns)
    (p : Place)
    (hTurns : 2 * (ts.length - p.index) < turns + 1) :
    Agrees ts p (Indexed.operand ts (turns + 1) p)
      (readOperand (p.cursor ts)) := by
  cases hToken : p.token? ts with
  | none =>
      rw [Place.cursor_of_none hToken, readOperand_nil,
        Indexed.operand, hToken]
      exact .fault _
  | some token =>
      have hPasses := Passes.next hToken
      have hIndex : p.index + 1 ≤ ts.length := hPasses.within
      rcases token with ⟨lexeme, position⟩
      rw [Place.cursor_of_some hToken]
      cases lexeme with
      | number digits =>
          rw [readOperand_number]
          simp only [Indexed.operand, hToken,
            Place.take_of_some hToken]
          by_cases hShort : digits.length ≤ Text.digitLimit
          · rw [if_pos hShort]
            simp only [bind, Except.bind, if_pos hShort]
            exact .found hPasses rfl
          · rw [if_neg hShort]
            simp only [bind, Except.bind, if_neg hShort]
            exact .fault _
      | name letters =>
          rw [readOperand_name]
          simp only [Indexed.operand, hToken,
            Place.take_of_some hToken]
          exact .found hPasses rfl
      | op o =>
          by_cases hOp : o = .sub
          · subst hOp
            rw [readOperand_minus]
            simp only [Indexed.operand, hToken, if_true,
              Place.take_of_some hToken]
            refine Agrees.enter _ fun _ => ?_
            have hInner := h.operand p.next.deeper (by
              show 2 * (ts.length - (p.index + 1)) < turns
              omega)
            refine hInner.bind fun t q _ hWay hKept => ?_
            exact .found (hPasses.around hWay)
              (Place.nesting_leave hKept)
          · rw [readOperand_operator hOp]
            simp only [Indexed.operand, hToken, if_neg hOp]
            exact .fault _
      | opening =>
          rw [readOperand_opening]
          simp only [Indexed.operand, hToken,
            Place.take_of_some hToken]
          refine Agrees.enter _ fun _ => ?_
          have hInner := h.expression 0 p.next.deeper (by
            show 2 * (ts.length - (p.index + 1)) + 1 < turns
            omega)
          refine hInner.bind fun t q _ hWay hKept => ?_
          exact Agrees.close t (hPasses.around hWay)
            (Place.nesting_leave hKept)
      | closing =>
          rw [readOperand_closing]
          simp only [Indexed.operand, hToken]
          exact .fault _

/- An expression goes on behind its first operand. -/
theorem expression_succ
    (h : Agree ts turns)
    (power : Nat)
    (p : Place)
    (hTurns : 2 * (ts.length - p.index) + 1 < turns + 1) :
    Agrees ts p (Indexed.expression ts (turns + 1) power p)
      (readExpression power (p.cursor ts)) := by
  have hOperand := h.operand p (by omega)
  rw [Indexed.expression, readExpression_eq]
  refine hOperand.bind fun left q hRead hPasses hNesting => ?_
  have hAdvance := Place.index_lt (readOperand_advances hRead)
  exact (h.climb power left q hPasses.within (by omega)).after
    hPasses hNesting

/-
  To go on is to stop on the spot, or to take an operator and
  to go on behind its right operand.
-/
theorem climb_succ
    (h : Agree ts turns)
    (power : Nat)
    (left : Tree)
    (p : Place)
    (hIndex : p.index ≤ ts.length)
    (hTurns : 2 * (ts.length - p.index) < turns + 1) :
    Agrees ts p (Indexed.climb ts (turns + 1) power left p)
      (readClimb power left (p.cursor ts)) := by
  cases hOperator : p.operator? ts with
  | none =>
      rw [Indexed.climb, hOperator, readClimb_stop]
      · exact .found (.refl hIndex) rfl
      · rw [Place.operator?_cursor, hOperator]
        exact fun o ho => by cases ho
  | some o =>
      by_cases hPower : o.power ≤ power
      · rw [Indexed.climb, hOperator, readClimb_stop]
        · simp only [if_pos hPower]
          exact .found (.refl hIndex) rfl
        · rw [Place.operator?_cursor, hOperator]
          exact fun o' ho => by cases ho; exact hPower
      · rcases Place.exists_token hOperator with
          ⟨position, hToken⟩
        have hPasses := Passes.next hToken
        have hNext : p.index + 1 ≤ ts.length := hPasses.within
        have hRight := h.expression o.power p.next (by
          show 2 * (ts.length - (p.index + 1)) + 1 < turns
          omega)
        rw [Indexed.climb, hOperator,
          Place.cursor_of_some hToken,
          readClimb_operator (Nat.not_le.mp hPower)]
        simp only [if_neg hPower, Place.take_of_some hToken]
        refine hRight.bind fun right q hRead hWay hKept => ?_
        have hAdvance :=
          Place.index_lt (readExpression_advances hRead)
        have hGo := h.climb power (.bin o left right) q
          hWay.within (by
            have hLater : p.index + 1 < q.index := hAdvance
            omega)
        exact hGo.after (hPasses.trans hWay) hKept

end Agree

------------------------------------------------------------
-- Whole Runs
------------------------------------------------------------

/- The readers agree with any number of turns. -/
theorem agree (ts : List Token) (turns : Nat) :
    Agree ts turns := by
  induction turns with
  | zero =>
      exact ⟨fun _ h => absurd h (Nat.not_lt_zero _),
        fun _ _ h => absurd h (Nat.not_lt_zero _),
        fun _ _ _ _ h => absurd h (Nat.not_lt_zero _)⟩
  | succ turns ih =>
      exact ⟨ih.operand_succ, ih.expression_succ,
        ih.climb_succ⟩

/- Only a more tightly binding operator is taken in. -/
theorem climb_stops
    {turns power : Nat}
    {left t : Tree}
    (h : climb ts turns power left p = .ok (t, q)) :
    ∀ o ∈ q.operator? ts, o.power ≤ power := by
  induction turns generalizing left p with
  | zero =>
      rw [climb] at h
      cases h
  | succ turns ih =>
      rw [climb] at h
      cases hOperator : p.operator? ts with
      | none =>
          rw [hOperator] at h
          cases h
          rw [hOperator]
          exact fun o ho => by cases ho
      | some o =>
          rw [hOperator] at h
          by_cases hPower : o.power ≤ power
          · simp only [if_pos hPower] at h
            cases h
            rw [hOperator]
            exact fun o' ho => by cases ho; exact hPower
          · simp only [if_neg hPower] at h
            rcases bind_eq_ok.mp h with ⟨taken, _, hTaken⟩
            rcases bind_eq_ok.mp hTaken with ⟨right, _, hGo⟩
            exact ih hGo

/- So does an expression stop before the others. -/
theorem expression_stops
    {turns power : Nat}
    {t : Tree}
    (h : expression ts turns power p = .ok (t, q)) :
    ∀ o ∈ q.operator? ts, o.power ≤ power := by
  cases turns with
  | zero =>
      rw [expression] at h
      cases h
  | succ turns =>
      rw [expression] at h
      rcases bind_eq_ok.mp h with ⟨first, _, hClimb⟩
      exact climb_stops hClimb

/-
  A reader has done its work between two places: it has taken
  one token at least, every token between them once and in
  order, and it has closed what it had opened.
-/
structure Disciplined
    (ts : List Token)
    (p q : Place) : Prop where
  advanced : p.index < q.index
  within : q.index ≤ ts.length
  once : q.taken =
    p.taken ++ List.range' p.index (q.index - p.index)
  kept : q.nesting = p.nesting

/-
  However many turns a reader is given beyond what is
  enough, it comes to the end that a reader of cursors comes
  to: a fault, or a tree at a place that it has reached with
  discipline, and where it had to stop.
-/
inductive Ends
    (ts : List Token)
    (p : Place)
    (stops : Place → Prop)
    (enough : Nat)
    (run : Nat → Except Stop (Tree × Place)) :
    Except SyntaxFault (Tree × Cursor) → Prop where
| fault (f : SyntaxFault) :
    (∀ turns, enough < turns →
      run turns = .error (.fault f)) →
    Ends ts p stops enough run (.error f)
| found
    (t : Tree)
    (q : Place) :
    (∀ turns, enough < turns → run turns = .ok (t, q)) →
    Disciplined ts p q →
    stops q →
    Ends ts p stops enough run (.ok (t, q.cursor ts))

/- A reader that agrees with enough turns has an end. -/
theorem ends_of_agrees
    {stops : Place → Prop}
    {enough : Nat}
    {run : Nat → Except Stop (Tree × Place)}
    {read : Except SyntaxFault (Tree × Cursor)}
    (hAgrees : ∀ turns, enough < turns →
      Agrees ts p (run turns) read)
    (hAdvances : ∀ (t : Tree) (q : Place),
      read = .ok (t, q.cursor ts) → p.index < q.index)
    (hStops : ∀ turns t q, run turns = .ok (t, q) → stops q) :
    Ends ts p stops enough run read := by
  have hEnough := hAgrees (enough + 1) (Nat.lt_succ_self _)
  have hSame : ∀ turns, enough < turns →
      run turns = run (enough + 1) := by
    intro turns hTurns
    exact (hAgrees turns hTurns).unique hEnough
  generalize hRun : run (enough + 1) = x at hEnough hSame
  cases hEnough with
  | fault f => exact .fault f hSame
  | found hPasses hNesting =>
      exact .found _ _ hSame
        ⟨hAdvances _ _ rfl, hPasses.within, hPasses.once,
          hNesting⟩
        (hStops _ _ _ hRun)

/-
  Wherever the readers start, and however much is open there,
  they come to an end in fewer turns than twice the number of
  the tokens that are left, and two.  A reader that returns a
  tree has gone on by a token at least, it has taken every
  token that it has passed once, it has closed what it had
  opened, and an expression stops at the end, at a token that
  is no operator, or at an operator that does not bind more
  tightly than `power`.
-/
theorem readers_disciplined
    (ts : List Token)
    (p : Place) :
    (∀ power : Nat,
      Ends ts p (fun q => ∀ o ∈ q.operator? ts, o.power ≤ power)
        (2 * (ts.length - p.index) + 1)
        (fun turns => expression ts turns power p)
        (readExpression power (p.cursor ts))) ∧
    Ends ts p (fun _ => True)
      (2 * (ts.length - p.index))
      (fun turns => operand ts turns p)
      (readOperand (p.cursor ts)) := by
  constructor
  · intro power
    refine ends_of_agrees ?_ ?_ ?_
    · intro turns hTurns
      exact (agree ts turns).expression power p hTurns
    · intro t q hRead
      exact Place.index_lt (readExpression_advances hRead)
    · intro turns t q hRun
      exact expression_stops hRun
  · refine ends_of_agrees ?_ ?_ ?_
    · intro turns hTurns
      exact (agree ts turns).operand p hTurns
    · intro t q hRead
      exact Place.index_lt (readOperand_advances hRead)
    · intro turns t q _
      exact trivial

/-
  An operand is read inside of a parenthesis.  The product is
  taken in by the expression, and what closes it is left.
-/
example :
    expression
        [⟨.opening, 0⟩, ⟨.op .sub, 1⟩, ⟨.name ['x'], 2⟩,
          ⟨.op .mul, 3⟩, ⟨.name ['y'], 4⟩, ⟨.closing, 5⟩]
        12 0 ⟨1, 1, [0]⟩ =
      .ok (.bin .mul (.neg (.var "x")) (.var "y"),
        ⟨5, 1, [0, 1, 2, 3, 4]⟩) := by
  rfl

end Indexed

end Termwise
