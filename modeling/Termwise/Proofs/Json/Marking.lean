import Mathlib.Tactic.IntervalCases
import Termwise.Proofs.Json.Numbers
import Termwise.Proofs.Json.Strings

/-
  A value that was written consists of the marks that its
  form calls for, in every layout.

  Key definitions include:
    * `Json.Plain`
    * `Json.valueMarks`
    * `Json.MarksAs`
    * `Json.EndsValue`

  Main declarations:
    * `Json.MarksAs.before`
    * `Json.marksAs_charsAt`
    * `Json.marks_chars`
-/

namespace Termwise

namespace Json

------------------------------------------------------------
-- Plain Values
------------------------------------------------------------

mutual

/-
  A value is read as it is written: it has no doubles and no
  broken texts, no number that is refused for its length,
  and no key twice in one object.
-/
def Plain (rule : LengthRule) : Json → Prop
| null => True
| bool _ => True
| int n =>
    rule.refuses (Text.numeral n.natAbs).length true = false
| float _ => False
| text _ => True
| broken => False
| list items => PlainItems rule items
| object fields =>
    (fields.map Prod.fst).Nodup ∧ PlainFields rule fields

/- All items of a list are plain. -/
def PlainItems (rule : LengthRule) : List Json → Prop
| [] => True
| v :: rest => Plain rule v ∧ PlainItems rule rest

/- All values of some fields are plain. -/
def PlainFields
    (rule : LengthRule) : List (String × Json) → Prop
| [] => True
| (_, v) :: rest => Plain rule v ∧ PlainFields rule rest

end

/- Fields are plain if all of their values are. -/
theorem plainFields_iff
    {rule : LengthRule}
    {fields : List (String × Json)} :
    PlainFields rule fields ↔ ∀ f ∈ fields, Plain rule f.2 := by
  induction fields with
  | nil => simp [PlainFields]
  | cons f rest ih =>
      rw [PlainFields, ih, List.forall_mem_cons]

/- No rule refuses a number that can be written. -/
theorem refuses_of_writable
    (rule : LengthRule)
    {n : Nat}
    (h : Text.Writable n) :
    rule.refuses (Text.numeral n).length true = false := by
  have hLength := Text.length_numeral_le_of_writable h
  have hShort :
      decide (Text.digitLimit < (Text.numeral n).length) =
        false :=
    decide_eq_false (Nat.not_lt.mpr hLength)
  cases rule with
  | noNumbers => rfl
  | wholeNumbers => exact hShort
  | allNumbers => exact hShort

------------------------------------------------------------
-- Marks of Values
------------------------------------------------------------

mutual

/- The marks that a value consists of. -/
def valueMarks : Json → List Mark
| list [] => [.openList, .closeList]
| list (v :: rest) =>
    .openList :: (valueMarks v
      ++ (itemMarks rest ++ [.closeList]))
| object [] => [.openObject, .closeObject]
| object ((k, v) :: rest) =>
    .openObject :: .atom (.text k) :: .colon :: (valueMarks v
      ++ (fieldMarks rest ++ [.closeObject]))
| v => [.atom v]

/- The marks of the items after the first. -/
def itemMarks : List Json → List Mark
| [] => []
| v :: rest => .comma :: (valueMarks v ++ itemMarks rest)

/- The marks of the fields after the first. -/
def fieldMarks : List (String × Json) → List Mark
| [] => []
| (k, v) :: rest =>
    .comma :: .atom (.text k) :: .colon
      :: (valueMarks v ++ fieldMarks rest)

end

------------------------------------------------------------
-- Marks of Characters
------------------------------------------------------------

/-
  Characters consist of marks wherever they stand, in front
  of what does not continue a number.  The fuel that is left
  is enough for what follows.
-/
def MarksAs
    (d : Dialect)
    (cs : List Char)
    (ms : List Mark) : Prop :=
  ∀ (rest : List Char) (fuel : Nat),
    EndsNumber rest →
    (cs ++ rest).length ≤ fuel →
    ∃ left, rest.length ≤ left ∧
      marksWithin d fuel (cs ++ rest) =
        ms ++ marksWithin d left rest

/- Characters continue no number that stands before them. -/
def EndsValue (cs : List Char) : Prop :=
  ∀ rest, EndsNumber rest → EndsNumber (cs ++ rest)

/- No characters continue nothing. -/
theorem EndsValue.nil : EndsValue [] :=
  fun _ hRest => hRest

/- The first character decides. -/
theorem EndsValue.cons
    {c : Char}
    (hc : continuesNumber c = false)
    (cs : List Char) :
    EndsValue (c :: cs) :=
  fun rest _ => .cons hc (cs ++ rest)

/- Characters that begin like this may be followed by such. -/
theorem EndsValue.append
    {cs ds : List Char}
    (hFirst : EndsValue cs)
    (hSecond : EndsValue ds) :
    EndsValue (cs ++ ds) := by
  intro rest hRest
  rw [List.append_assoc]
  exact hFirst _ (hSecond rest hRest)

namespace MarksAs

variable {d : Dialect} {cs ds : List Char}

variable {ms ns : List Mark}

/- No characters have no marks. -/
theorem nil : MarksAs d [] [] :=
  fun _ fuel _ hFuel => ⟨fuel, hFuel, rfl⟩

/- White space in front changes nothing. -/
theorem blank
    {c : Char}
    (hBlank : isJsonBlank c = true)
    (h : MarksAs d cs ms) :
    MarksAs d (c :: cs) ms := by
  intro rest fuel hRest hFuel
  cases fuel with
  | zero => cases hFuel
  | succ fuel =>
      rcases h rest fuel hRest (Nat.le_of_succ_le_succ hFuel)
        with ⟨left, hLeft, hMarks⟩
      refine ⟨left, hLeft, ?_⟩
      rw [List.cons_append, marksWithin, if_pos hBlank, hMarks]

/- A character that stands for itself comes first. -/
theorem symbol
    {c : Char}
    {m : Mark}
    (hBlank : isJsonBlank c = false)
    (hSymbol : symbolMark? c = some m)
    (h : MarksAs d cs ms) :
    MarksAs d (c :: cs) (m :: ms) := by
  intro rest fuel hRest hFuel
  cases fuel with
  | zero => cases hFuel
  | succ fuel =>
      rcases h rest fuel hRest (Nat.le_of_succ_le_succ hFuel)
        with ⟨left, hLeft, hMarks⟩
      refine ⟨left, hLeft, ?_⟩
      rw [List.cons_append, marksWithin,
        if_neg (Bool.eq_false_iff.mp hBlank), hSymbol]
      exact congrArg (m :: ·) hMarks

/- A value without parts is scanned as a whole. -/
theorem atom
    {c : Char}
    {m : Mark}
    (hBlank : isJsonBlank c = false)
    (hSymbol : symbolMark? c = none)
    (hScan : ∀ rest, EndsNumber rest →
      scanAtom? d (c :: cs ++ rest) = some (m, rest)) :
    MarksAs d (c :: cs) [m] := by
  intro rest fuel hRest hFuel
  cases fuel with
  | zero => cases hFuel
  | succ fuel =>
      have hAtom := hScan rest hRest
      rw [List.cons_append] at hAtom hFuel
      rw [List.length_cons, List.length_append] at hFuel
      refine ⟨fuel, by omega, ?_⟩
      rw [List.cons_append, marksWithin,
        if_neg (Bool.eq_false_iff.mp hBlank), hSymbol, hAtom]
      rfl

/- Characters come before others that continue no number. -/
theorem before
    (hFirst : MarksAs d cs ms)
    (hEnds : EndsValue ds)
    (hSecond : MarksAs d ds ns) :
    MarksAs d (cs ++ ds) (ms ++ ns) := by
  intro rest fuel hRest hFuel
  rw [List.append_assoc] at hFuel ⊢
  rcases hFirst (ds ++ rest) fuel (hEnds rest hRest) hFuel with
    ⟨middle, hMiddle, hMarks⟩
  rcases hSecond rest middle hRest hMiddle with
    ⟨left, hLeft, hMarks₂⟩
  exact ⟨left, hLeft, by
    rw [hMarks, hMarks₂, List.append_assoc]⟩

/- A text by itself consists of the marks. -/
theorem marks_eq
    (h : MarksAs d cs ms) :
    marks d cs = ms := by
  rcases h [] cs.length (.nil _) (by simp) with
    ⟨left, _, hMarks⟩
  have hEnd : marksWithin d left [] = [] := by
    cases left with
    | zero => rfl
    | succ left => rfl
  rw [List.append_nil, hEnd, List.append_nil] at hMarks
  exact hMarks

end MarksAs

------------------------------------------------------------
-- Values Without Parts
------------------------------------------------------------

section Atoms

variable {d : Dialect} {cs : List Char} {ms : List Mark}

/- A string that was written comes first. -/
theorem MarksAs.string
    (asciiOnly : Bool)
    (s : String)
    (h : MarksAs d cs ms) :
    MarksAs d (stringChars asciiOnly s ++ cs)
      (.atom (.text s) :: ms) := by
  intro rest fuel hRest hFuel
  have hText :
      stringChars asciiOnly s ++ cs ++ rest =
        '"' :: (s.toList.flatMap (stringChar asciiOnly)
          ++ '"' :: (cs ++ rest)) := by
    simp [stringChars]
  rw [hText] at hFuel ⊢
  cases fuel with
  | zero => cases hFuel
  | succ fuel =>
      have hEnough : (cs ++ rest).length ≤ fuel := by
        simp only [List.length_cons, List.length_append]
          at hFuel ⊢
        omega
      rcases h rest fuel hRest hEnough with
        ⟨left, hLeft, hMarks⟩
      refine ⟨left, hLeft, ?_⟩
      have hScan :
          scanAtom? d
              ('"' :: (s.toList.flatMap (stringChar asciiOnly)
                ++ '"' :: (cs ++ rest))) =
            some (.atom (.text s), cs ++ rest) := by
        rw [scanAtom?, scanString?_stringChars]
        rfl
      rw [marksWithin, if_neg (by decide), hScan]
      exact congrArg (Mark.atom (.text s) :: ·) hMarks

/- What begins with a digit begins with no other mark. -/
theorem digit_starts_number
    {c : Char}
    (h : Text.isDigit c = true) :
    isJsonBlank c = false ∧ symbolMark? c = none ∧
      ∀ rest, scanAtom? d (c :: rest) =
        scanNumber? d.lengths (c :: rest) := by
  have hDigit : c ∈ ['0', '1', '2', '3', '4', '5', '6', '7',
      '8', '9'] := by
    have hCode := (Text.isDigit_iff c).mp h
    rw [← Char.ofNat_toNat c]
    generalize c.toNat = n at hCode
    rcases hCode with ⟨hLow, hHigh⟩
    interval_cases n <;> decide
  simp only [List.mem_cons, List.not_mem_nil, or_false]
    at hDigit
  rcases hDigit with rfl | rfl | rfl | rfl | rfl | rfl | rfl |
    rfl | rfl | rfl
  all_goals exact ⟨rfl, rfl, fun _ => rfl⟩

/- So does a minus sign that a digit follows. -/
theorem minus_starts_number
    {c : Char}
    (h : Text.isDigit c = true)
    (rest : List Char) :
    scanAtom? d ('-' :: c :: rest) =
      scanNumber? d.lengths ('-' :: c :: rest) := by
  have hOther : ¬ 'I' = c := by
    intro hSame
    rw [← hSame] at h
    exact absurd h (by decide)
  have hWord : scanWord? ('-' :: c :: rest) = none := by
    simp [scanWord?, words, Text.afterStart?, hOther]
  rw [scanAtom?, hWord]
  intro cs hSame
  exact absurd (List.cons.inj hSame).1 (by decide)

/- An integer that was written is one atom. -/
theorem MarksAs.integer
    {n : Int}
    (h : d.lengths.refuses (Text.numeral n.natAbs).length
      true = false) :
    MarksAs d (Text.integerChars n) [.atom (.int n)] := by
  have hScan := fun rest (hRest : EndsNumber rest) =>
    hRest.scanNumber?_integerChars h
  have hDigits : ∀ c ∈ Text.numeral n.natAbs,
      Text.isDigit c = true :=
    fun c hc => Text.isDigit_of_mem_numeral hc
  cases hNumeral : Text.numeral n.natAbs with
  | nil => exact absurd hNumeral (Text.numeral_ne_nil _)
  | cons c digits =>
      rw [hNumeral, List.forall_mem_cons] at hDigits
      cases n with
      | ofNat n =>
          have hChars :
              Text.integerChars (.ofNat n) = c :: digits :=
            hNumeral
          rcases digit_starts_number (d := d) hDigits.1 with
            ⟨hBlank, hSymbol, hAtom⟩
          rw [hChars] at hScan ⊢
          refine .atom hBlank hSymbol fun rest hRest => ?_
          rw [List.cons_append, hAtom]
          exact hScan rest hRest
      | negSucc n =>
          have hChars :
              Text.integerChars (.negSucc n) =
                '-' :: c :: digits :=
            congrArg ('-' :: ·) hNumeral
          rw [hChars] at hScan ⊢
          refine .atom rfl rfl fun rest hRest => ?_
          rw [List.cons_append, List.cons_append,
            minus_starts_number hDigits.1]
          exact hScan rest hRest

end Atoms

------------------------------------------------------------
-- Values
------------------------------------------------------------

namespace Layout

variable (l : Layout)

/- A line break ends a value. -/
theorem endsValue_newline (level : Nat) :
    EndsValue (l.newline level) := by
  unfold newline
  cases l.indent with
  | none => exact .nil
  | some width => exact .cons (by decide) _

variable {d : Dialect} {cs : List Char} {ms : List Mark}

/- A line break in front changes nothing. -/
theorem marksAs_newline
    (level : Nat)
    (h : MarksAs d cs ms) :
    MarksAs d (l.newline level ++ cs) ms := by
  unfold newline
  cases l.indent with
  | none => exact h
  | some width =>
      refine .blank rfl ?_
      induction width * level with
      | zero => exact h
      | succ n ih => exact .blank rfl ih

/- What stands behind a key is a colon. -/
theorem marksAs_colon
    (h : MarksAs d cs ms) :
    MarksAs d (l.colon ++ cs) (.colon :: ms) := by
  unfold colon
  cases l.indent with
  | none => exact .symbol rfl rfl h
  | some width => exact .symbol rfl rfl (.blank rfl h)

/- The end of a list or an object on a line of its own. -/
theorem marksAs_close
    {c : Char}
    {m : Mark}
    (hBlank : isJsonBlank c = false)
    (hSymbol : symbolMark? c = some m)
    (level : Nat) :
    MarksAs d (l.newline level ++ [c]) [m] :=
  l.marksAs_newline level (.symbol hBlank hSymbol .nil)

end Layout

/- More items end the value in front of them. -/
theorem endsValue_itemChars
    (l : Layout)
    (level : Nat)
    (items : List Json) :
    EndsValue (itemChars l level items) := by
  cases items with
  | nil =>
      rw [itemChars]
      exact .nil
  | cons v rest =>
      rw [itemChars]
      exact .cons (by decide) _

/- More fields end the value in front of them. -/
theorem endsValue_fieldChars
    (l : Layout)
    (level : Nat)
    (fields : List (String × Json)) :
    EndsValue (fieldChars l level fields) := by
  cases fields with
  | nil =>
      rw [fieldChars]
      exact .nil
  | cons f rest =>
      rw [fieldChars]
      exact .cons (by decide) _

mutual

/- A plain value that was written has the marks of its form. -/
theorem marksAs_charsAt
    {d : Dialect}
    (l : Layout)
    (level : Nat) :
    ∀ v, Plain d.lengths v →
      MarksAs d (charsAt l level v) (valueMarks v)
| null, _ => .atom rfl rfl fun _ _ => rfl
| bool true, _ => .atom rfl rfl fun _ _ => rfl
| bool false, _ => .atom rfl rfl fun _ _ => rfl
| int n, h => .integer h
| float _, h => h.elim
| text s, _ => by
    have hString := MarksAs.string (d := d) l.asciiOnly s .nil
    rw [List.append_nil] at hString
    rw [charsAt, valueMarks]
    · exact hString
    all_goals simp
| broken, h => h.elim
| list [], _ => .symbol rfl rfl (.symbol rfl rfl .nil)
| list (v :: rest), h => by
    rw [Plain, PlainItems] at h
    have hFirst := marksAs_charsAt l (level + 1) v h.1
    have hItems := marksAs_itemChars l (level + 1) rest h.2
    have hClose := l.marksAs_close (d := d) (c := ']') rfl rfl
      level
    have hEnd : EndsValue (l.newline level ++ [']']) :=
      (l.endsValue_newline level).append
        (.cons (by decide) [])
    have hParts := hFirst.before
      ((endsValue_itemChars l (level + 1) rest).append hEnd)
      (hItems.before hEnd hClose)
    have hAll := MarksAs.symbol (c := '[') rfl rfl
      (l.marksAs_newline (level + 1) hParts)
    rw [charsAt, valueMarks]
    simpa only [List.append_assoc, List.cons_append,
      List.nil_append] using hAll
| object [], _ => .symbol rfl rfl (.symbol rfl rfl .nil)
| object ((k, v) :: rest), h => by
    rw [Plain, PlainFields] at h
    have hFirst := marksAs_charsAt l (level + 1) v h.2.1
    have hFields := marksAs_fieldChars l (level + 1) rest h.2.2
    have hClose := l.marksAs_close (d := d) (c := '}') rfl
      rfl level
    have hEnd : EndsValue (l.newline level ++ ['}']) :=
      (l.endsValue_newline level).append
        (.cons (by decide) [])
    have hParts := hFirst.before
      ((endsValue_fieldChars l (level + 1) rest).append hEnd)
      (hFields.before hEnd hClose)
    have hAll := MarksAs.symbol (c := '{') rfl rfl
      (l.marksAs_newline (level + 1)
        ((l.marksAs_colon hParts).string l.asciiOnly k))
    rw [charsAt, valueMarks]
    simpa only [List.append_assoc, List.cons_append,
      List.nil_append] using hAll

/- So have the items after the first. -/
theorem marksAs_itemChars
    {d : Dialect}
    (l : Layout)
    (level : Nat) :
    ∀ items, PlainItems d.lengths items →
      MarksAs d (itemChars l level items) (itemMarks items)
| [], _ => .nil
| v :: rest, h => by
    rw [PlainItems] at h
    have hFirst := marksAs_charsAt l level v h.1
    have hItems := marksAs_itemChars l level rest h.2
    have hAll := MarksAs.symbol (c := ',') rfl rfl
      (l.marksAs_newline level
        (hFirst.before (endsValue_itemChars l level rest)
          hItems))
    rw [itemChars, itemMarks]
    simpa only [List.append_assoc, List.cons_append,
      List.nil_append] using hAll

/- So have the fields after the first. -/
theorem marksAs_fieldChars
    {d : Dialect}
    (l : Layout)
    (level : Nat) :
    ∀ fields, PlainFields d.lengths fields →
      MarksAs d (fieldChars l level fields) (fieldMarks fields)
| [], _ => .nil
| (k, v) :: rest, h => by
    rw [PlainFields] at h
    have hFirst := marksAs_charsAt l level v h.1
    have hFields := marksAs_fieldChars l level rest h.2
    have hParts := hFirst.before
      (endsValue_fieldChars l level rest) hFields
    have hAll := MarksAs.symbol (c := ',') rfl rfl
      (l.marksAs_newline level
        ((l.marksAs_colon hParts).string l.asciiOnly k))
    rw [fieldChars, fieldMarks]
    simpa only [List.append_assoc, List.cons_append,
      List.nil_append] using hAll

end

/- The marks of a plain value that was written. -/
theorem marks_chars
    {d : Dialect}
    (l : Layout)
    {v : Json}
    (h : Plain d.lengths v) :
    marks d (chars l v) = valueMarks v :=
  (marksAs_charsAt l 0 v h).marks_eq

end Json

end Termwise
