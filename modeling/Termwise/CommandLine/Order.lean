import Termwise.CommandLine.Number
import Termwise.CommandLine.Word

/-
  This file defines how a command line is read as an order:
  a command with its flags and operands.

  Words are acted on from left to right.  A flag that takes
  a value takes the next word if that is an ordinary one; an
  ordinary word is the next operand, as long as operands are
  open.  Words that nothing is made of are collected and
  refused in the end.

  Key definitions include:
    * `Given`
    * `Stop`
    * `Demand`
    * `Hit.demand`
    * `Given.act`
    * `Command.readWords`
    * `Order`
    * `Order.read`
-/

namespace Termwise

------------------------------------------------------------
-- What Is Given
------------------------------------------------------------

/-
  What a command line gives to a command.  A value `--` is no
  value at all, be it an operand or the number of a flag.
-/
structure Given where
  text : Option String
  json : Bool
  steps : Bool
  typeset : Bool
  seed : Option (Option Int)
  trials : Option (Option Int)
  operands : List (Option String)
  extra : List String
deriving DecidableEq, Repr

/- Why the reading of a command line ends early. -/
inductive Stop where
| help : Stop
| complaint : Complaint → Stop
deriving DecidableEq, Repr

namespace Given

/- Nothing is given. -/
def nothing : Given where
  text := none
  json := false
  steps := false
  typeset := false
  seed := none
  trials := none
  operands := []
  extra := []

/- One more word that nothing is made of. -/
def addExtra (g : Given) (word : String) : Given :=
  { g with extra := g.extra ++ [word] }

/- One more operand. -/
def addOperand (g : Given) (operand : Option String) : Given :=
  { g with operands := g.operands ++ [operand] }

/- A value, unless it is `--`. -/
def valueOf (value : String) : Option String :=
  if value = "--" then none else some value

/- A number as the value of a flag. -/
def integerOf
    (f : Flag)
    (value : String) : Except Stop (Option Int) :=
  match valueOf value with
  | none => .ok none
  | some value =>
      match CommandLine.readInteger? value with
      | some n => .ok (some n)
      | none => .error (.complaint (.notInteger f value))

/- Act on a flag without a value. -/
def act (g : Given) : Flag → Except Stop Given
| .help => .error .help
| .json => .ok { g with json := true }
| .steps => .ok { g with steps := true }
| .typeset => .ok { g with typeset := true }
| _ => .ok g

/- Act on a flag with its value. -/
def actWith
    (g : Given)
    (f : Flag)
    (value : String) : Except Stop Given :=
  match f with
  | .text => .ok { g with text := valueOf value }
  | .seed =>
      (integerOf f value).map fun n => { g with seed := some n }
  | .trials =>
      (integerOf f value).map fun n =>
        { g with trials := some n }
  | _ => g.act f

/- Act on flags without values in turn. -/
def actAll (g : Given) : List Flag → Except Stop Given
| [] => .ok g
| f :: rest =>
    match g.act f with
    | .error s => .error s
    | .ok g => g.actAll rest

end Given

------------------------------------------------------------
-- Demands of a Word
------------------------------------------------------------

/-
  What a word with flags asks for: flags without values, and
  after them a flag that has a value, or waits for one.
-/
inductive Last where
| nothing : Last
| value : Flag → String → Last
| waiting : Flag → Last
deriving DecidableEq, Repr

/- The demands of a word. -/
structure Demand where
  flags : List Flag
  last : Last
deriving DecidableEq, Repr

namespace Demand

/- The demands of a flag that nothing is attached to. -/
def alone (f : Flag) : Demand :=
  if f.takesValue then ⟨[], .waiting f⟩ else ⟨[f], .nothing⟩

/- The same demands after one more flag. -/
def after (f : Flag) (d : Demand) : Demand :=
  ⟨f :: d.flags, d.last⟩

/- The demands of a flag with an equated value. -/
def equated
    (f : Flag)
    (value : List Char) : Except Complaint Demand :=
  if f.takesValue then
    .ok ⟨[], .value f (String.ofList value)⟩
  else
    .error (.unwanted f value)

/-
  The demands of a short flag and what is joined to it: its
  value, or more short flags.
-/
def joined
    (flags : List Flag)
    (f : Flag) : List Char → Except Complaint Demand
| [] => .ok (alone f)
| c :: rest =>
    if f.takesValue then
      .ok ⟨[], .value f (String.ofList (c :: rest))⟩
    else
      match Spelling.flag? flags ['-', c] with
      | none => .error (.unwanted f (c :: rest))
      | some next => (joined flags next rest).map (after f)

end Demand

/- The demands of a word that spells a flag. -/
def Hit.demand
    (flags : List Flag)
    (h : Hit) : Except Complaint Demand :=
  match h.attached with
  | .nothing => .ok (Demand.alone h.flag)
  | .joined cs => Demand.joined flags h.flag cs
  | .equated value => Demand.equated h.flag value

------------------------------------------------------------
-- Reading Words
------------------------------------------------------------

namespace Command

/- An operand is still open. -/
def wants (c : Command) (g : Given) : Bool :=
  decide (g.operands.length < c.operands.length)

/-
  The demands of a word with the value that was waited for,
  if the next word is one, and the words after it.
-/
def settle
    (d : Demand)
    (rest : List Word) :
    Except Complaint
      (Demand × { ws : List Word // ws.length ≤ rest.length }) :=
  match d.last, rest with
  | .waiting f, .plain w :: rest' =>
      .ok (⟨d.flags, .value f w⟩,
        ⟨rest', Nat.le_succ rest'.length⟩)
  | .waiting f, _ => .error (.noValue f)
  | _, rest => .ok (d, ⟨rest, Nat.le_refl _⟩)

/- Act on the demands of a word. -/
def meet (g : Given) (d : Demand) : Except Stop Given :=
  match g.actAll d.flags with
  | .error s => .error s
  | .ok g =>
      match d.last with
      | .value f value => g.actWith f value
      | _ => .ok g

/- Act on the words of a command line in turn. -/
def readWords
    (c : Command)
    (g : Given) : List Word → Except Stop Given
| [] => .ok g
| .unknown w :: rest => c.readWords (g.addExtra w) rest
| .plain w :: .separator :: rest =>
    if c.wants g then
      c.readWords (g.addOperand (Given.valueOf w)) rest
    else
      c.readWords (g.addExtra w) (.separator :: rest)
| .plain w :: rest =>
    if c.wants g then
      c.readWords (g.addOperand (Given.valueOf w)) rest
    else
      c.readWords (g.addExtra w) rest
| .separator :: .plain w :: rest =>
    if c.wants g then
      c.readWords (g.addOperand (some w)) rest
    else
      c.readWords ((g.addExtra "--").addExtra w) rest
| .separator :: rest => c.readWords (g.addExtra "--") rest
| .hit hit :: rest =>
    match hit.demand c.flags with
    | .error complaint => .error (.complaint complaint)
    | .ok d =>
        match settle d rest with
        | .error complaint => .error (.complaint complaint)
        | .ok (d, ⟨rest', _⟩) =>
            match meet g d with
            | .error s => .error s
            | .ok g => c.readWords g rest'
termination_by ws => ws.length

end Command

------------------------------------------------------------
-- Orders
------------------------------------------------------------

/- What a command line asks for. -/
inductive Order where
| help : Scope → Order
| refused : Scope → Complaint → Order
| command : Command → Given → Order
deriving DecidableEq, Repr

namespace Order

/- An order, unless words are left over or wanting. -/
def close
    (c : Command)
    (before : List String)
    (g : Given) : Order :=
  match c.operands.drop g.operands.length with
  | [] =>
      match before ++ g.extra with
      | [] => command c g
      | extra => refused .program (.unknown extra)
  | missing => refused (.command c) (.absent missing)

/- Read what stands after the word of a command. -/
def readCommand
    (c : Command)
    (before rest : List String) : Order :=
  match (Scope.command c).words rest with
  | .error complaint => refused (.command c) complaint
  | .ok words =>
      match c.readWords .nothing words with
      | .error .help => help (.command c)
      | .error (.complaint complaint) =>
          refused (.command c) complaint
      | .ok g => close c before g

/- Read a command line, after words nothing is made of. -/
def readAfter (before : List String) : List String → Order
| [] => refused .program (.absent ["command"])
| w :: rest =>
    if w = "--" then
      match rest with
      | [] => refused .program (.absent ["command"])
      | _ => refused .program (.noCommand w)
    else
      match Scope.program.kindOf w with
      | .ambiguous spellings =>
          refused .program (.ambiguous w spellings)
      | .unknown => readAfter (before ++ [w]) rest
      | .hit hit =>
          match hit.demand Scope.program.flags with
          | .error complaint => refused .program complaint
          | .ok _ => help .program
      | .plain =>
          match Command.ofWord? w with
          | some c => readCommand c before rest
          | none => refused .program (.noCommand w)

/- Read a command line. -/
def read (words : List String) : Order :=
  readAfter [] words

end Order

end Termwise
