import Teletype.Random.Cipher
import Teletype.Decimal.Double
/-!
# Drawing

A source is an endless stream of words and the position in it, so a draw that takes words only moves
the position. Whole numbers are drawn without bias, by leaving out the words that would favour some.
-/

namespace Teletype.Random

/-- Where words come from. -/
inductive Stream where
  | cipher (key : Key)
  /-- Given words, and zeros behind them. -/
  | listed (words : List UInt64)

/-- The word at a position. -/
def Stream.word (s : Stream) (position : Nat) : UInt64 :=
  match s with
  | cipher key => cipherWord key position
  | listed words => words.getD position 0

/-- A stream and how many words have been taken from it. -/
structure Source where
  stream : Stream
  position : Nat

namespace Source

/-- The source of a seed. -/
def ofSeed (seed : UInt64) : Source := ⟨.cipher (keyOfSeed seed), 0⟩

/-- The source of given words. -/
def ofWords (words : List UInt64) : Source := ⟨.listed words, 0⟩

/-- Takes a word. -/
def next (s : Source) : UInt64 × Source :=
  (s.stream.word s.position, { s with position := s.position + 1 })

/-- How many words a draw may refuse; each refuses less than half of them. -/
def maxRefusals : Nat := 4096

/-- Draws a number below `range` from words whose low product is within the zone. -/
def drawWithin (range zone : Nat) : Nat → Source → Nat × Source
  | 0, s =>
    let (v, s) := s.next
    (v.toNat * range / 2 ^ 64, s)
  | fuel + 1, s =>
    let (v, rest) := s.next
    if v.toNat * range % 2 ^ 64 ≤ zone then (v.toNat * range / 2 ^ 64, rest)
    else drawWithin range zone fuel rest

/-- The greatest low product at which no number is favoured: the greatest multiple of the range by a
power of two below `2 ^ 64`, less one. -/
def fairZone (range : Nat) : Nat := range * 2 ^ (63 - range.log2) - 1

/-- Draws a number below a positive range of less than `2 ^ 64`. -/
def drawBelow (range : Nat) (s : Source) : Nat × Source :=
  drawWithin range (fairZone range) maxRefusals s

/-- Draws a whole number between two bounds of 64 bits. All 64-bit numbers together are drawn as the
word itself. -/
def drawBetween (low high : Int) (s : Source) : Int × Source :=
  let range := (high - low + 1).toNat % 2 ^ 64
  if range = 0 then
    let (v, s) := s.next
    (v.toInt64.toInt, s)
  else
    let (n, s) := drawBelow range s
    (low + n, s)

/-- Draws whether something of a probability between zero and one happens. Certainty needs no
word. -/
def drawChance (probability : Float) (s : Source) : Bool × Source :=
  match Decimal.Double.ofFloat probability with
  | .finite _ mantissa exponent =>
    let threshold := mantissa * 2 ^ (exponent + 64).toNat / 2 ^ (-(exponent + 64)).toNat
    if threshold = 2 ^ 64 then (true, s)
    else
      let (v, s) := s.next
      (decide (v.toNat < threshold), s)
  | _ => (false, s)

end Source

end Teletype.Random
