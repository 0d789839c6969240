/-!
# The word stream of a seed

A seed of 64 bits is stretched to a key of eight words, and the key enciphers a counter with twelve
rounds of the ChaCha cipher. Each block of sixteen words gives eight draws of 64 bits.
-/

namespace Teletype.Random

/-- The state of the cipher: sixteen words of 32 bits. -/
abbrev Block := Vector UInt32 16

/-- A word turned to the left. -/
def rotateLeft (x : UInt32) (count : UInt32) : UInt32 :=
  (x <<< count) ||| (x >>> (32 - count))

/-- A word turned to the right. -/
def rotateRight (x : UInt32) (count : UInt32) : UInt32 :=
  if count = 0 then x else (x >>> count) ||| (x <<< (32 - count))

/-- Mixes four words of a block. -/
def quarterRound (s : Block) (a b c d : Fin 16) : Block :=
  let s := s.set a (s[a] + s[b])
  let s := s.set d (rotateLeft (s[d] ^^^ s[a]) 16)
  let s := s.set c (s[c] + s[d])
  let s := s.set b (rotateLeft (s[b] ^^^ s[c]) 12)
  let s := s.set a (s[a] + s[b])
  let s := s.set d (rotateLeft (s[d] ^^^ s[a]) 8)
  let s := s.set c (s[c] + s[d])
  s.set b (rotateLeft (s[b] ^^^ s[c]) 7)

/-- Mixes the columns and then the diagonals of a block. -/
def doubleRound (s : Block) : Block :=
  let s := quarterRound s 0 4 8 12
  let s := quarterRound s 1 5 9 13
  let s := quarterRound s 2 6 10 14
  let s := quarterRound s 3 7 11 15
  let s := quarterRound s 0 5 10 15
  let s := quarterRound s 1 6 11 12
  let s := quarterRound s 2 7 8 13
  quarterRound s 3 4 9 14

/-- Applies a function a number of times. -/
def repeated {α : Type} (f : α → α) : Nat → α → α
  | 0, x => x
  | count + 1, x => repeated f count (f x)

/-- A key of eight words. -/
abbrev Key := Vector UInt32 8

/-- The block before it is mixed: four constants, the key, and the counter. -/
def startBlock (key : Key) (counter : UInt64) : Block :=
  #v[0x61707865, 0x3320646e, 0x79622d32, 0x6b206574,
    key[0], key[1], key[2], key[3], key[4], key[5], key[6], key[7],
    counter.toUInt32, (counter >>> 32).toUInt32, 0, 0]

/-- The enciphered block of a counter. -/
def cipherBlock (key : Key) (counter : UInt64) : Block :=
  let start := startBlock key counter
  (repeated doubleRound 6 start).zipWith (· + ·) start

/-- The draw at a position of the stream: two neighbouring words of a block, the lower one first. -/
def cipherWord (key : Key) (position : Nat) : UInt64 :=
  let block := cipherBlock key (UInt64.ofNat (position / 8))
  let low := block[2 * (position % 8)]
  let high := block[2 * (position % 8) + 1]
  (high.toUInt64 <<< 32) ||| low.toUInt64

/-- One step of the generator that stretches a seed. -/
def stretchStep (state : UInt64) : UInt64 := state * 6364136223846793005 + 11634580027462260723

/-- The word that a state of that generator gives. -/
def stretchWord (state : UInt64) : UInt32 :=
  rotateRight (((state >>> 18) ^^^ state) >>> 27).toUInt32 (state >>> 59).toUInt32

/-- The words of a key from a seed, the first after one step. -/
def stretched : Nat → UInt64 → List UInt32
  | 0, _ => []
  | count + 1, state =>
    let state := stretchStep state
    stretchWord state :: stretched count state

/-- The key of a seed. -/
def keyOfSeed (seed : UInt64) : Key := Vector.ofFn fun i : Fin 8 ↦ (stretched 8 seed).getD i 0

end Teletype.Random
