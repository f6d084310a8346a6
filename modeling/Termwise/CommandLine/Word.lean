import Termwise.CommandLine.Complaint
import Termwise.Text.Digit

/-
  This file defines what the words of a command line are
  taken for, before any of them is acted on.

  A word that starts with a hyphen is a spelling of a flag
  or short for one, possibly with a value attached.  It is
  an ordinary word if it looks like a negative number or
  has a blank in it, and otherwise unknown.  After the word
  `--` all words are ordinary.

  Key definitions include:
    * `Hit`
    * `WordKind`
    * `Spelling.isNegative`
    * `Spelling.flag?`
    * `Spelling.candidates`
    * `Scope.kindOf`
    * `Word`
    * `Scope.words`
-/

namespace Termwise

------------------------------------------------------------
-- Kinds of Words
------------------------------------------------------------

/-
  What is attached to a spelling: nothing; some characters
  joined to a short one, with or without an equals sign
  between them; or a value after an equals sign.
-/
inductive Attached where
| nothing : Attached
| joined : List Char → Attached
| equated : List Char → Attached
deriving DecidableEq, Repr

/- A flag that a word spells, and what is attached to it. -/
structure Hit where
  flag : Flag
  attached : Attached
deriving DecidableEq, Repr

/- What a word is taken for. -/
inductive WordKind where
| plain : WordKind
| hit : Hit → WordKind
| unknown : WordKind
| ambiguous : List String → WordKind
deriving DecidableEq, Repr

namespace Spelling

------------------------------------------------------------
-- Negative Numbers
------------------------------------------------------------

/- Digits, of which there have to be some. -/
def isDigits (cs : List Char) : Bool :=
  !cs.isEmpty && cs.all Text.isAnyDigit

/- Digits, or digits after a point with or without others. -/
def isUnsigned (cs : List Char) : Bool :=
  match cs.dropWhile Text.isAnyDigit with
  | '.' :: fraction => isDigits fraction
  | _ => isDigits cs

/- A text without one line break at its end. -/
def withoutBreak (cs : List Char) : List Char :=
  if cs.getLast? = some '\n' then cs.dropLast else cs

/- A word that looks like a negative number. -/
def isNegative : List Char → Bool
| '-' :: cs => isUnsigned (withoutBreak cs)
| _ => false

------------------------------------------------------------
-- Spellings
------------------------------------------------------------

/- All spellings of some flags with their flags. -/
def all (flags : List Flag) : List (String × Flag) :=
  flags.flatMap fun f => f.spellings.map fun s => (s, f)

/- The flag with a spelling. -/
def flag? (flags : List Flag) (s : List Char) : Option Flag :=
  (all flags).lookup (String.ofList s)

/- The part of a word before the first equals sign. -/
def stem (cs : List Char) : List Char :=
  cs.takeWhile (· != '=')

/- What follows the first equals sign of a word, if any. -/
def equatedPart (cs : List Char) : Attached :=
  match cs.dropWhile (· != '=') with
  | _ :: value => .equated value
  | [] => .nothing

/- The flag that a whole word spells. -/
def whole? (flags : List Flag) (cs : List Char) : Option Hit :=
  (flag? flags cs).map fun f => ⟨f, .nothing⟩

/-
  The flag that a word spells in front of an equals sign.  If
  the spelling is short, what follows is joined to it.
-/
def equated? (flags : List Flag) (cs : List Char) : Option Hit :=
  match equatedPart cs with
  | .equated value =>
      (flag? flags (stem cs)).map fun f =>
        if (stem cs).length = 2 ∧ value ≠ [] then
          ⟨f, .joined value⟩
        else ⟨f, .equated value⟩
  | _ => none

/- The kind of a word that may be short for some spellings. -/
def kindOf? :
    List (String × Hit) → Option WordKind
| [] => none
| [(_, hit)] => some (.hit hit)
| many => some (.ambiguous (many.map fun (s, _) => s))

/- The spellings that a word can be short for. -/
def candidates
    (flags : List Flag) : List Char → List (String × Hit)
| '-' :: '-' :: rest =>
    let start := stem ('-' :: '-' :: rest)
    ((all flags).filter fun (s, _) =>
      start.isPrefixOf s.toList).map fun (s, f) =>
        (s, ⟨f, equatedPart rest⟩)
| '-' :: c :: rest =>
    match flag? flags ['-', c] with
    | some f =>
        [(String.ofList ['-', c], ⟨f, .joined rest⟩)]
    | none => []
| _ => []

end Spelling

namespace Scope

/- A word that starts with a hyphen and spells no flag. -/
def kindOfOther (s : Scope) (cs : List Char) : WordKind :=
  match Spelling.kindOf? (Spelling.candidates s.flags cs) with
  | some kind => kind
  | none =>
      if Spelling.isNegative cs || cs.contains ' ' then .plain
      else .unknown

/- What a word is taken for that starts with a hyphen. -/
def kindOfHyphened (s : Scope) (cs : List Char) : WordKind :=
  match Spelling.whole? s.flags cs with
  | some hit => .hit hit
  | none =>
      if cs.length = 1 then .plain
      else
        match Spelling.equated? s.flags cs with
        | some hit => .hit hit
        | none => s.kindOfOther cs

/- What a word is taken for. -/
def kindOf (s : Scope) (word : String) : WordKind :=
  match word.toList with
  | '-' :: rest => s.kindOfHyphened ('-' :: rest)
  | _ => .plain

end Scope

------------------------------------------------------------
-- Words
------------------------------------------------------------

/- A word of a command line, as it is going to be read. -/
inductive Word where
| plain : String → Word
| hit : Hit → Word
| unknown : String → Word
| separator : Word
deriving DecidableEq, Repr

/-
  The words of a command line.  A word that could be short
  for several spellings is refused before any other word is
  acted on.
-/
def Scope.words (s : Scope) :
    List String → Except Complaint (List Word)
| [] => .ok []
| w :: rest =>
    if w = "--" then
      .ok (.separator :: rest.map .plain)
    else
      match s.kindOf w with
      | .ambiguous spellings => .error (.ambiguous w spellings)
      | .plain => (s.words rest).map (.plain w :: ·)
      | .hit hit => (s.words rest).map (.hit hit :: ·)
      | .unknown => (s.words rest).map (.unknown w :: ·)

end Termwise
