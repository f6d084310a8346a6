/-
  This file defines the places of a word in a text: how many
  there are, and what the text becomes if another word is
  put in each of them.  A character that a word lacks is in
  none of its places, so they lie before it or behind it.

  Key definitions include:
    * `Text.occurrences`
    * `Text.replaceAll`

  Main declarations:
    * `Text.occurrences_split`
    * `Text.replaceAll_split`
-/

namespace Termwise

namespace Text

------------------------------------------------------------
-- Places
------------------------------------------------------------

/- The number of places at which a word stands in a text. -/
def occurrences (word : List Char) : List Char → Nat
| [] => 0
| c :: cs =>
    if word.isPrefixOf (c :: cs) then occurrences word cs + 1
    else occurrences word cs

/-
  Put a word in every place of another one, which is not
  empty.  The places are found from left to right, so that no
  two of them overlap.
-/
def replaceAll
    (old new text : List Char) : List Char :=
  match text with
  | [] => []
  | c :: cs =>
      if old.isPrefixOf (c :: cs) then
        new ++ replaceAll old new (cs.drop (old.length - 1))
      else c :: replaceAll old new cs
termination_by text.length
decreasing_by
  · rw [List.length_drop, List.length_cons]
    omega
  · exact Nat.lt_succ_self _

------------------------------------------------------------
-- Separating Characters
------------------------------------------------------------

/- A word does not reach beyond a character that it lacks. -/
theorem isPrefixOf_split
    {c : Char}
    {word : List Char}
    (h : c ∉ word)
    (cs rest : List Char) :
    word.isPrefixOf (cs ++ c :: rest) = word.isPrefixOf cs := by
  induction word generalizing cs with
  | nil => rfl
  | cons first word ih =>
      have hFirst := List.ne_of_not_mem_cons h
      have hLater := List.not_mem_of_not_mem_cons h
      cases cs with
      | nil => simp [List.isPrefixOf, Ne.symm hFirst]
      | cons d cs =>
          rw [List.cons_append, List.isPrefixOf,
            List.isPrefixOf, ih hLater]

/- Nor does one that has its place at an earlier character. -/
theorem isPrefixOf_cons_split
    {c : Char}
    {word : List Char}
    (h : c ∉ word)
    (d : Char)
    (cs rest : List Char) :
    word.isPrefixOf (d :: (cs ++ c :: rest)) =
      word.isPrefixOf (d :: cs) :=
  isPrefixOf_split h (d :: cs) rest

section Splitting

variable {c : Char} {word : List Char}

variable (hWord : word ≠ []) (h : c ∉ word)

include hWord h

/- No word begins with a character that it lacks. -/
theorem isPrefixOf_cons_eq_false (rest : List Char) :
    word.isPrefixOf (c :: rest) = false := by
  rw [← List.nil_append (c :: rest), isPrefixOf_split h]
  cases word with
  | nil => exact absurd rfl hWord
  | cons first word => rfl

/- There is no place at it. -/
theorem occurrences_cons (rest : List Char) :
    occurrences word (c :: rest) = occurrences word rest := by
  rw [occurrences, if_neg]
  simp [isPrefixOf_cons_eq_false hWord h]

/- The places of a word lie on either side of it. -/
theorem occurrences_split (cs rest : List Char) :
    occurrences word (cs ++ c :: rest) =
      occurrences word cs + occurrences word rest := by
  induction cs with
  | nil =>
      rw [List.nil_append, occurrences_cons hWord h,
        occurrences, Nat.zero_add]
  | cons d cs ih =>
      rw [List.cons_append, occurrences, occurrences,
        isPrefixOf_cons_split h, ih]
      split
      · exact Nat.add_right_comm _ _ 1
      · rfl

/- It is kept where a word is replaced. -/
theorem replaceAll_cons (new rest : List Char) :
    replaceAll word new (c :: rest) =
      c :: replaceAll word new rest := by
  rw [replaceAll, if_neg]
  simp [isPrefixOf_cons_eq_false hWord h]

/- The word is replaced on either side of it. -/
theorem replaceAll_split
    (new cs rest : List Char) :
    replaceAll word new (cs ++ c :: rest) =
      replaceAll word new cs ++
        c :: replaceAll word new rest := by
  fun_induction replaceAll word new cs with
  | case1 => exact replaceAll_cons hWord h new rest
  | case2 d cs hPlace ih =>
      have hFits : word.length - 1 ≤ cs.length := by
        have hLength :=
          (List.isPrefixOf_iff_prefix.mp hPlace).length_le
        rw [List.length_cons] at hLength
        omega
      rw [List.cons_append, replaceAll,
        isPrefixOf_cons_split h, if_pos hPlace,
        List.drop_append_of_le_length hFits, ih,
        List.append_assoc]
  | case3 d cs hPlace ih =>
      rw [List.cons_append, replaceAll,
        isPrefixOf_cons_split h, if_neg hPlace, ih,
        List.cons_append]

end Splitting

/- A word has no place where its first character is lacking. -/
theorem occurrences_eq_zero
    {first : Char}
    {cs : List Char}
    (h : first ∉ cs)
    (word : List Char) :
    occurrences (first :: word) cs = 0 := by
  induction cs with
  | nil => rfl
  | cons c cs ih =>
      have hFirst := List.ne_of_not_mem_cons h
      rw [occurrences, ih (List.not_mem_of_not_mem_cons h)]
      simp [List.isPrefixOf, hFirst]

/- There nothing is replaced. -/
theorem replaceAll_eq_self
    {first : Char}
    {cs : List Char}
    (h : first ∉ cs)
    (word new : List Char) :
    replaceAll (first :: word) new cs = cs := by
  induction cs with
  | nil => rw [replaceAll]
  | cons c cs ih =>
      have hFirst := List.ne_of_not_mem_cons h
      rw [replaceAll, ih (List.not_mem_of_not_mem_cons h)]
      simp [List.isPrefixOf, hFirst]

/- Places that overlap are counted, but not both replaced. -/
example :
    occurrences ['a', 'a'] ['a', 'a', 'a'] = 2 ∧
      replaceAll ['a', 'a'] ['b'] ['a', 'a', 'a'] =
        ['b', 'a'] := by
  decide +kernel

end Text

end Termwise
