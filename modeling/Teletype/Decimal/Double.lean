import Teletype.Power
/-!
# Doubles as exact numbers

A double is read as a sign, a whole mantissa and a power of two, and a ratio of whole numbers is
rounded to the nearest double, a half going to the even neighbour. Everything between the two is
whole-number arithmetic, so rounding, flooring and printing never lose a bit on the way.
-/

namespace Teletype.Decimal

/-- What a double stands for: `mantissa * 2 ^ exponent` with a sign, or a special value. -/
inductive Double where
  | nan
  | infinite (negative : Bool)
  | finite (negative : Bool) (mantissa : Nat) (exponent : Int)
  deriving DecidableEq, Repr

namespace Double

/-- The exact reading of the 64 bits of a double. -/
def ofBits (bits : Nat) : Double :=
  let negative := bits / 2 ^ 63 % 2 == 1
  let biased : Nat := bits / 2 ^ 52 % 2 ^ 11
  let fraction : Nat := bits % 2 ^ 52
  if biased = 2047 then
    if fraction = 0 then infinite negative else nan
  else if biased = 0 then finite negative fraction (-1074)
  else finite negative (2 ^ 52 + fraction) ((biased : Int) - 1075)

/-- The exact reading of a double. -/
def ofFloat (x : Float) : Double := ofBits x.toBits.toNat

end Double

/-- The whole part of `num / den`, or the next whole number when the rest is more than a half, or
exactly a half above an odd number. -/
def roundHalfEven (num den : Nat) : Nat :=
  let whole := num / den
  let rest := num % den
  if 2 * rest > den ∨ (2 * rest = den ∧ whole % 2 = 1) then whole + 1 else whole

/-- The whole part of `num / den / 2 ^ exponent`. -/
def scaledFloor (num den : Nat) (exponent : Int) : Nat :=
  num * 2 ^ (-exponent).toNat / (den * 2 ^ exponent.toNat)

/-- The least exponent, not below that of the subnormal doubles, at which `num / den` needs no
more than 53 bits. -/
def unitExponent (num den : Nat) : Int :=
  let guess := max ((num.log2 : Int) - den.log2 - 53) (-1074)
  if scaledFloor num den guess < 2 ^ 53 then guess else guess + 1

/-- Bits of positive infinity. -/
def infinityBits : Nat := 0x7ff0000000000000

/-- Bits of the nonnegative double nearest to `num / den`, a half going to the even mantissa and
all that lies beyond the largest double to infinity. The leading mantissa bit adds one to the
exponent field, as does a mantissa that was rounded up to 54 bits. -/
def nearestBits (num den : Nat) : Nat :=
  if num = 0 then 0
  else
    let q := unitExponent num den
    let mantissa := roundHalfEven (num * 2 ^ (-q).toNat) (den * 2 ^ q.toNat)
    min ((q + 1074).toNat * 2 ^ 52 + mantissa) infinityBits

/-- The double with the given sign and the magnitude given by its bits. -/
def ofSignedBits (negative : Bool) (bits : Nat) : Float :=
  Float.ofBits (UInt64.ofNat (if negative then 2 ^ 63 + bits else bits))

/-- The double nearest to a ratio with a sign of its own, so that zero may be negative. -/
def ofRatio (negative : Bool) (num den : Nat) : Float :=
  ofSignedBits negative (nearestBits num den)

/-- The double nearest to a whole number. -/
def ofInt (n : Int) : Float := ofRatio (decide (n < 0)) n.natAbs 1

/-- Positive or negative infinity. -/
def infinity (negative : Bool) : Float := ofSignedBits negative infinityBits

/-- The largest whole number not above a finite double. -/
def floor? (x : Float) : Option Int :=
  match Double.ofFloat x with
  | .finite negative mantissa exponent =>
    let num : Int := mantissa * 2 ^ exponent.toNat
    some ((if negative then -num else num) / 2 ^ (-exponent).toNat)
  | _ => none

/-- The smallest whole number not below a finite double. -/
def ceil? (x : Float) : Option Int :=
  match Double.ofFloat x with
  | .finite negative mantissa exponent =>
    let num : Int := mantissa * 2 ^ exponent.toNat
    some (-((if negative then num else -num) / 2 ^ (-exponent).toNat))
  | _ => none

/-- The value of the double nearest to a whole number, as far as doubles reach. -/
def nearestInt (n : Int) : Int := (floor? (ofInt n)).getD n

/-- Whether a double is neither infinite nor NaN. -/
def isFinite (x : Float) : Bool :=
  match Double.ofFloat x with
  | .finite .. => true
  | _ => false

end Teletype.Decimal
