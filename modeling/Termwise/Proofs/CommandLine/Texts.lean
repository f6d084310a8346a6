import Mathlib.Logic.Function.Iterate
import Termwise.Proofs.CommandLine.Orders

/-
  How the words of a command are read that takes one
  expression.  The text after `--text=` is the text that is
  given, whatever it is, and around it the command may have
  its switch.

  Key definitions include:
    * `Command.switch?`
    * `Given.switch`

  Main declarations:
    * `Scope.words_switches`
    * `Scope.kindOf_text`
    * `Command.readWords_switches`
    * `Order.read_switches`
    * `Order.read_text`
-/

namespace Termwise

------------------------------------------------------------
-- Switches
------------------------------------------------------------

/- The flag that changes what a command shows. -/
def Command.switch? : Command → Option Flag
| parse => some .json
| eval => some .steps
| render => some .typeset
| equiv => none

namespace Given

/- What is given with a switch besides. -/
def switch (f : Flag) (g : Given) : Given :=
  match f with
  | .json => { g with json := true }
  | .steps => { g with steps := true }
  | .typeset => { g with typeset := true }
  | _ => g

/- What is given with another text. -/
def withText (text : Option String) (g : Given) : Given :=
  { g with text := text }

/- A switch may be given before or after the text. -/
theorem switch_withText
    (f : Flag)
    (text : Option String)
    (g : Given) :
    (g.withText text).switch f = (g.switch f).withText text := by
  cases f <;> rfl

/- So may a switch that is given again and again. -/
theorem iterate_switch_withText
    (f : Flag)
    (text : Option String)
    (n : Nat)
    (g : Given) :
    (switch f)^[n] (g.withText text) =
      ((switch f)^[n] g).withText text := by
  induction n generalizing g with
  | zero => rfl
  | succ n ih =>
      rw [Function.iterate_succ_apply,
        Function.iterate_succ_apply, switch_withText, ih]

/- Switches give no text, and leave no words over. -/
theorem iterate_switch_nothing
    (f : Flag)
    (n : Nat) :
    ((switch f)^[n] nothing).text = none ∧
      ((switch f)^[n] nothing).extra = [] := by
  induction n with
  | zero => exact ⟨rfl, rfl⟩
  | succ n ih =>
      rw [Function.iterate_succ_apply']
      cases f <;> exact ih

end Given

------------------------------------------------------------
-- Words
------------------------------------------------------------

section Words

variable {c : Command} {f : Flag}

variable (hSwitch : c.switch? = some f)

include hSwitch

namespace Scope

/- A switch is spelled by a word of its own. -/
theorem kindOf_switch
    {w : String}
    (hSpelling : w ∈ f.spellings) :
    w ≠ "--" ∧
      (command c).kindOf w = .hit ⟨f, .nothing⟩ := by
  cases c with
  | parse | render =>
      cases hSwitch
      rcases List.mem_singleton.mp hSpelling with rfl
      decide
  | eval =>
      cases hSwitch
      rcases List.mem_pair.mp hSpelling with rfl | rfl <;> decide
  | equiv => cases hSwitch

/- Switches in front of other words. -/
theorem words_switches
    {switches : List String}
    (hSpelling : ∀ w ∈ switches, w ∈ f.spellings)
    (rest : List String) :
    (command c).words (switches ++ rest) =
      ((command c).words rest).map
        (List.replicate switches.length
          (.hit ⟨f, .nothing⟩) ++ ·) := by
  induction switches with
  | nil =>
      cases hWords : (command c).words rest with
      | error complaint => rw [List.nil_append, hWords]; rfl
      | ok ws => rw [List.nil_append, hWords]; rfl
  | cons w switches ih =>
      rcases List.forall_mem_cons.mp hSpelling with
        ⟨hFirst, hLater⟩
      rcases kindOf_switch hSwitch hFirst with
        ⟨hSeparator, hKind⟩
      rw [List.cons_append, words_hit _ hSeparator hKind,
        ih hLater]
      cases (command c).words rest <;> rfl

/- What follows `--text=` in a word is attached to the flag. -/
theorem kindOf_text (text : String) :
    "--text=" ++ text ≠ "--" ∧
      (command c).kindOf ("--text=" ++ text) =
        .hit ⟨.text, .equated text.toList⟩ := by
  let cs := '-' :: '-' :: 't' :: 'e' :: 'x' :: 't' :: '='
    :: text.toList
  have hChars : ("--text=" ++ text).toList = cs := by
    rw [String.toList_append]
    rfl
  have hSign : ∀ p ∈ Spelling.all (command c).flags,
      '=' ∉ p.1.toList := by
    cases c <;> decide
  have hWhole : Spelling.whole? (command c).flags cs = none := by
    rw [Spelling.whole?, Spelling.flag?_eq_none, Option.map_none]
    intro p hp hSame
    refine hSign p hp ?_
    rw [← hSame]
    simp [cs]
  have hFlag :
      Spelling.flag? (command c).flags (Spelling.stem cs) =
        some .text := by
    cases c with
    | parse | eval | render => rfl
    | equiv => cases hSwitch
  have hEquated :
      Spelling.equated? (command c).flags cs =
        some ⟨.text, .equated text.toList⟩ := by
    have hPart :
        Spelling.equatedPart cs = .equated text.toList := rfl
    have hLong : (Spelling.stem cs).length ≠ 2 := by
      show (6 : Nat) ≠ 2
      decide
    simp only [Spelling.equated?, hPart, hFlag, Option.map_some,
      hLong, false_and, if_false]
  constructor
  · intro hSame
    rw [hSame] at hChars
    exact absurd (congrArg List.length hChars) (by simp [cs])
  · unfold kindOf
    rw [hChars]
    show (command c).kindOfHyphened cs = _
    rw [kindOfHyphened, hWhole]
    simp only [hEquated]
    rfl

end Scope

------------------------------------------------------------
-- Reading
------------------------------------------------------------

namespace Command

/- A switch is acted on. -/
theorem readWords_switch
    (g : Given)
    (rest : List Word) :
    c.readWords g (.hit ⟨f, .nothing⟩ :: rest) =
      c.readWords (g.switch f) rest := by
  cases c with
  | parse | eval | render =>
      cases hSwitch
      rw [readWords]
      rfl
  | equiv => cases hSwitch

/- Several are acted on in turn. -/
theorem readWords_switches
    (n : Nat)
    (g : Given)
    (rest : List Word) :
    c.readWords g
        (List.replicate n (.hit ⟨f, .nothing⟩) ++ rest) =
      c.readWords ((Given.switch f)^[n] g) rest := by
  induction n generalizing g with
  | zero => rfl
  | succ n ih =>
      rw [List.replicate_succ, List.cons_append,
        readWords_switch hSwitch, ih,
        Function.iterate_succ_apply]

omit hSwitch in
/- A text that is attached to its flag is the one given. -/
theorem readWords_text
    (g : Given)
    (text : String)
    (rest : List Word) :
    c.readWords g (.hit ⟨.text, .equated text.toList⟩ :: rest) =
      c.readWords (g.withText (Given.valueOf text)) rest := by
  have hValue :
      Given.valueOf (String.ofList text.toList) =
        Given.valueOf text := by
    rw [String.ofList_toList]
  rw [readWords, ← hValue]
  rfl

end Command

------------------------------------------------------------
-- Orders
------------------------------------------------------------

namespace Order

/- Words that leave nothing over make an order. -/
theorem readCommand_of_words
    {rest : List String}
    {ws : List Word}
    {g : Given}
    (hWords : (Scope.command c).words rest = .ok ws)
    (hRead : c.readWords .nothing ws = .ok g)
    (hExtra : g.extra = []) :
    Order.read (c.word :: rest) = .command c g := by
  have hNone : c.operands = [] := by
    cases c with
    | parse | eval | render => rfl
    | equiv => cases hSwitch
  rw [read_word, readCommand, hWords]
  simp only [hRead, close, hNone, hExtra, List.drop_nil,
    List.append_nil]

/- A command may have its switch, again and again. -/
theorem read_switches
    {switches : List String}
    (hSpelling : ∀ w ∈ switches, w ∈ f.spellings) :
    Order.read (c.word :: switches) =
      .command c
        ((Given.switch f)^[switches.length] .nothing) := by
  have hExtra :=
    (Given.iterate_switch_nothing f switches.length).2
  have hWords := Scope.words_switches hSwitch hSpelling []
  have hRead :=
    Command.readWords_switches hSwitch switches.length .nothing []
  rw [List.append_nil, Scope.words, Except.map,
    List.append_nil] at hWords
  rw [List.append_nil, Command.readWords] at hRead
  exact readCommand_of_words hSwitch hWords hRead hExtra

/- It may have a text besides, before or behind the switch. -/
theorem read_text
    {before after : List String}
    (hBefore : ∀ w ∈ before, w ∈ f.spellings)
    (hAfter : ∀ w ∈ after, w ∈ f.spellings)
    (text : String) :
    Order.read
        (c.word :: before ++ ("--text=" ++ text) :: after) =
      .command c
        (((Given.switch f)^[(before ++ after).length]
          .nothing).withText (Given.valueOf text)) := by
  let hits := fun n : Nat =>
    List.replicate n (Word.hit ⟨f, .nothing⟩)
  let word := Word.hit ⟨.text, .equated text.toList⟩
  have hExtra :=
    (Given.iterate_switch_nothing f (before ++ after).length).2
  rcases Scope.kindOf_text hSwitch text with ⟨hWord, hKind⟩
  have hLater : (Scope.command c).words after =
      .ok (hits after.length) := by
    have hAll := Scope.words_switches hSwitch hAfter []
    rw [List.append_nil] at hAll
    rw [hAll, Scope.words, Except.map, List.append_nil]
  have hWords : (Scope.command c).words
      (before ++ ("--text=" ++ text) :: after) =
        .ok (hits before.length ++ word :: hits after.length) := by
    rw [Scope.words_switches hSwitch hBefore,
      Scope.words_hit _ hWord hKind, hLater]
    rfl
  have hRead : c.readWords .nothing
      (hits before.length ++ word :: hits after.length) =
        .ok (((Given.switch f)^[(before ++ after).length]
          .nothing).withText (Given.valueOf text)) := by
    have hRest := Command.readWords_switches hSwitch
      after.length (((Given.switch f)^[before.length]
        .nothing).withText (Given.valueOf text)) []
    rw [List.append_nil] at hRest
    rw [Command.readWords_switches hSwitch,
      Command.readWords_text, hRest, Command.readWords,
      Given.iterate_switch_withText, List.length_append,
      Nat.add_comm, Function.iterate_add_apply]
  rw [List.cons_append]
  exact readCommand_of_words hSwitch hWords hRead hExtra

end Order

end Words

end Termwise
