import Termwise.Draw.Source
import Termwise.Power

/-
  This file defines the random source MT19937, the Mersenne
  twister on 624 words of 32 bits, with seeding by an
  integer and draws from a range.

  Key definitions include:
    * `Twister`
    * `Twister.ofKey`
    * `Twister.ofSeed`
    * `Twister.next`
    * `Twister.bits`
    * `Twister.below`
-/

namespace Termwise

/-
  The words of the twister, and how many of them have been
  given out since they were last renewed.
-/
structure Twister where
  words : Array UInt32
  used : Nat
deriving DecidableEq, Repr

namespace Twister

/- The number of words. -/
def count : Nat :=
  624

/- The distance of the words that renewal mixes. -/
def shift : Nat :=
  397

/- The word at an index. -/
def word (words : Array UInt32) (i : Nat) : UInt32 :=
  words.getD i 0

------------------------------------------------------------
-- Seeding
------------------------------------------------------------

/- A word mixed with its own highest bits. -/
def spread (w : UInt32) : UInt32 :=
  w ^^^ (w >>> 30)

/- Append words that each follow from the one before. -/
def fill : Nat → Array UInt32 → Array UInt32
| 0, words => words
| n + 1, words =>
    let i := words.size
    fill n
      (words.push
        (1812433253 * spread (word words (i - 1))
          + i.toUInt32))

/- The words of a one-word seed. -/
def ofWord (seed : UInt32) : Array UInt32 :=
  fill (count - 1) #[seed]

/-
  The index after `i`, and the words with the first one
  renewed when the end is reached.
-/
def advance
    (i : Nat)
    (words : Array UInt32) : Nat × Array UInt32 :=
  if i + 1 < count then (i + 1, words)
  else (1, words.setIfInBounds 0 (word words (count - 1)))

/- Mix a key into the words, round after round. -/
def mixKey
    (key : Array UInt32) :
    Nat → Nat → Nat → Array UInt32 → Nat × Array UInt32
| 0, i, _, words => (i, words)
| n + 1, i, j, words =>
    let w :=
      (word words i ^^^ (spread (word words (i - 1)) * 1664525))
        + word key j + j.toUInt32
    let (i', words) := advance i (words.setIfInBounds i w)
    let j' := if j + 1 < key.size then j + 1 else 0
    mixKey key n i' j' words

/- Mix the words with their indices. -/
def mixIndex :
    Nat → Nat → Array UInt32 → Array UInt32
| 0, _, words => words
| n + 1, i, words =>
    let w :=
      (word words i
        ^^^ (spread (word words (i - 1)) * 1566083941))
        - i.toUInt32
    let (i', words) := advance i (words.setIfInBounds i w)
    mixIndex n i' words

/- The twister of a key of several words. -/
def ofKey (key : Array UInt32) : Twister :=
  let (i, words) :=
    mixKey key (max count key.size) 1 0 (ofWord 19650218)
  let words := mixIndex (count - 1) i words
  ⟨words.setIfInBounds 0 0x80000000, count⟩

/- The 32-bit words of a number, the least significant first. -/
def keyWords (n : Nat) : List UInt32 :=
  if n < twoTo 32 then [n.toUInt32]
  else (n % twoTo 32).toUInt32 :: keyWords (n / twoTo 32)
termination_by n
decreasing_by
  have hRange : twoTo 32 = 4294967296 := rfl
  apply Nat.div_lt_self <;> omega

/- The twister of an integer seed; its sign does not count. -/
def ofSeed (seed : Int) : Twister :=
  ofKey (keyWords seed.natAbs).toArray

------------------------------------------------------------
-- Words
------------------------------------------------------------

/- Renew the words from an index on. -/
def renewFrom :
    Nat → Nat → Array UInt32 → Array UInt32
| 0, _, words => words
| n + 1, i, words =>
    let y :=
      (word words i &&& 0x80000000)
        ||| (word words ((i + 1) % count) &&& 0x7FFFFFFF)
    let w :=
      word words ((i + shift) % count) ^^^ (y >>> 1)
        ^^^ (if y &&& 1 = 0 then 0 else 0x9908B0DF)
    renewFrom n (i + 1) (words.setIfInBounds i w)

/- Temper a word before it is given out. -/
def temper (w : UInt32) : UInt32 :=
  let w := w ^^^ (w >>> 11)
  let w := w ^^^ ((w <<< 7) &&& 0x9D2C5680)
  let w := w ^^^ ((w <<< 15) &&& 0xEFC60000)
  w ^^^ (w >>> 18)

/- Give out the next word. -/
def next (t : Twister) : UInt32 × Twister :=
  let t :=
    if t.used < count then t
    else ⟨renewFrom count 0 t.words, 0⟩
  (temper (word t.words t.used), ⟨t.words, t.used + 1⟩)

------------------------------------------------------------
-- Draws
------------------------------------------------------------

/-
  Draw a number of `k` bits, in words of which the first is
  the least significant one.  Of the last word the lowest
  bits are left out.
-/
def bits (k : Nat) (t : Twister) : Nat × Twister :=
  let (w, t) := t.next
  if k ≤ 32 then ((w >>> (32 - k).toUInt32).toNat, t)
  else
    let (rest, t) := bits (k - 32) t
    (w.toNat + twoTo 32 * rest, t)
termination_by k

/-
  Draw numbers of as many bits as `n` has, until one is less
  than `n`.  Of the numbers with that many bits at least
  every second one is, so a draw takes two tries on average.
-/
def below (n : Nat) : Nat → Twister → Nat × Twister
| 0, t => (0, t)
| tries + 1, t =>
    let (x, t) := t.bits (n.log2 + 1)
    if x < n then (x, t) else below n tries t

/- The number of tries in a row that a draw may take. -/
def tries : Nat :=
  1000000

instance : Source Twister where
  draw low high t :=
    let (x, t) := below (high - low).toNat tries t
    (low + x, t)

end Twister

end Termwise
