import Termwise.Text.Hexadecimal

/-
  This file defines which path the target of a request
  names.

  A target is a path, possibly after a scheme and an
  authority, and before a query or a fragment.

  Key definitions include:
    * `Target`
    * `Target.ofChars`
    * `Target.withoutDots`
    * `Target.resolved`
    * `Target.unescaped`
    * `Target.path`
-/

namespace Termwise

/- A scheme, an authority and a path, empty if not given. -/
structure Target where
  scheme : List Char
  authority : List Char
  route : List Char
deriving DecidableEq, Repr

namespace Target

------------------------------------------------------------
-- Parts of a Target
------------------------------------------------------------

/- The part of a target in front of a query and a fragment. -/
def beforeQuery (cs : List Char) : List Char :=
  cs.takeWhile fun c => c != '?' && c != '#'

/- A character that a scheme may have after its first. -/
def isSchemePart (c : Char) : Bool :=
  c.isAlphanum || c == '+' || c == '.' || c == '-'

/-
  The scheme in front of a colon, and what follows it.  It
  is empty or starts with a letter.
-/
def splitScheme (cs : List Char) : List Char × List Char :=
  let scheme := cs.takeWhile isSchemePart
  match cs.dropWhile isSchemePart with
  | ':' :: rest =>
      if scheme.head?.all Char.isAlpha then (scheme, rest)
      else ([], cs)
  | _ => ([], cs)

/- The authority after two slashes, and what follows it. -/
def splitAuthority : List Char → List Char × List Char
| '/' :: '/' :: rest =>
    (rest.takeWhile (· != '/'), rest.dropWhile (· != '/'))
| cs => ([], cs)

/- Take a target apart. -/
def ofChars (cs : List Char) : Target :=
  let (scheme, rest) := splitScheme (beforeQuery cs)
  let (authority, route) := splitAuthority rest
  ⟨scheme, authority, route⟩

/- An authority without the user in front of the last `@`. -/
def withoutUser (authority : List Char) : List Char :=
  (authority.reverse.takeWhile (· != '@')).reverse

/- The host of a target, without a user and a port. -/
def host (t : Target) : List Char :=
  (withoutUser t.authority).takeWhile (· != ':')

/- A target tells the scheme and the host that it is at. -/
def isAbsolute (t : Target) : Bool :=
  !t.scheme.isEmpty && !t.host.isEmpty

/- A target tells nothing but a path. -/
def isBare (t : Target) : Bool :=
  t.scheme.isEmpty
    && t.authority.all fun c => c == '@' || c == ':'

------------------------------------------------------------
-- Levels of a Path
------------------------------------------------------------

/- The parts of a path between its slashes. -/
def segments : List Char → List (List Char)
| [] => [[]]
| c :: rest =>
    if c = '/' then [] :: segments rest
    else
      match segments rest with
      | first :: others => (c :: first) :: others
      | [] => [[c]]

/-
  Parts of a path without those that stand for the same or
  the next higher level.  The parts so far are given last
  first.
-/
def withoutDots
    (done : List (List Char)) :
    List (List Char) → List (List Char)
| [] => done.reverse
| part :: rest =>
    if part = ['.'] then withoutDots done rest
    else if part = ['.', '.'] then
      withoutDots (if done = [[]] then done else done.tail) rest
    else withoutDots (part :: done) rest

/- Parts of a path with slashes between them. -/
def joined (parts : List (List Char)) : List Char :=
  List.intercalate ['/'] parts

/- A path with its levels resolved. -/
def resolved (path : List Char) : List Char :=
  joined (withoutDots [] (segments path))

/- A path with one slash in front. -/
def rooted (path : List Char) : List Char :=
  '/' :: path.dropWhile (· == '/')

/-
  The path of a target at the service.  A path that comes
  with more is resolved by itself, and if it is not absolute
  it is then put under the root and resolved there.
-/
def located (t : Target) : List Char :=
  if t.isAbsolute then resolved t.route
  else if t.isBare then resolved (rooted t.route)
  else resolved (rooted (resolved t.route))

------------------------------------------------------------
-- Escapes
------------------------------------------------------------

/- Characters instead of the escapes of their bytes. -/
def unescaped : List Char → List Char
| '%' :: a :: b :: rest =>
    match Text.hexValue? a, Text.hexValue? b with
    | some x, some y =>
        Char.ofNat (16 * x + y) :: unescaped rest
    | _, _ => '%' :: unescaped (a :: b :: rest)
| c :: rest => c :: unescaped rest
| [] => []

/-
  The path that a target names.  Escapes are resolved twice,
  on the way and on arrival.
-/
def path (target : List Char) : List Char :=
  unescaped (unescaped (ofChars target).located)

end Target

end Termwise
