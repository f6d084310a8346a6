import Termwise.Syntax.Fault

/-
  This file defines how a text is cut into tokens.

  A number is a longest run of ASCII digits, a variable a
  longest run of ASCII letters, and each sign a token of its
  own.  Blank characters separate tokens.

  Key definitions include:
    * `isLetter`
    * `tokensFrom`
    * `tokens`
-/

namespace Termwise

/- An ASCII letter. -/
def isLetter (c : Char) : Bool :=
  (decide ('a' ≤ c) && decide (c ≤ 'z')) ||
    (decide ('A' ≤ c) && decide (c ≤ 'Z'))

/- Dropping a run makes a text no longer. -/
theorem length_dropWhile_le
    (p : Char → Bool)
    (cs : List Char) :
    (cs.dropWhile p).length ≤ cs.length :=
  (List.dropWhile_sublist p).length_le

/-
  The tokens of a text that starts at a position, or the
  first character that starts none.
-/
def tokensFrom
    (position : Nat)
    (text : List Char) :
    Except SyntaxFault (List Token) :=
  match text with
  | [] => .ok []
  | c :: cs =>
      if Text.isDigit c then
        let run := c :: cs.takeWhile Text.isDigit
        match tokensFrom (position + run.length)
            (cs.dropWhile Text.isDigit) with
        | .ok ts => .ok (⟨.number run, position⟩ :: ts)
        | .error f => .error f
      else if isLetter c then
        let run := c :: cs.takeWhile isLetter
        match tokensFrom (position + run.length)
            (cs.dropWhile isLetter) with
        | .ok ts => .ok (⟨.name run, position⟩ :: ts)
        | .error f => .error f
      else if Text.isBlank c then
        tokensFrom (position + 1) cs
      else
        match Lexeme.symbol? c with
        | some l =>
            match tokensFrom (position + 1) cs with
            | .ok ts => .ok (⟨l, position⟩ :: ts)
            | .error f => .error f
        | none => .error (.strayCharacter c position)
termination_by text.length
decreasing_by
  · have h := length_dropWhile_le Text.isDigit cs
    simp only [List.length_cons]
    omega
  · have h := length_dropWhile_le isLetter cs
    simp only [List.length_cons]
    omega
  · simp
  · simp

/- The tokens of a text. -/
def tokens (text : String) :
    Except SyntaxFault (List Token) :=
  tokensFrom 0 text.toList

end Termwise
