import Teletype.Decimal.Numeral
/-!
# Numerals read through 64 bits

A second reading of numerals as doubles, by two factors: the leading digits that fit 64 bits, and a
power of ten. Each factor is rounded to a double before the one is multiplied or divided by the
other, so the outcome may lie a last bit beside the double that is nearest to the numeral.
-/

namespace Teletype.Decimal

/-- Leading digits of a numeral as a whole number, and the power of ten that belongs to them. -/
structure Scaled where
  digits : Nat
  exponent : Int
  deriving DecidableEq, Repr

/-- Appends digits to a whole number up to the first one that takes it beyond 64 bits. Gives the
number and the digits from that one on. -/
def fillWord : Nat → List Char → Nat × List Char
  | n, [] => (n, [])
  | n, c :: cs =>
    let next := 10 * n + (c.toNat - 48)
    if next < 2 ^ 64 then fillWord next cs else (n, c :: cs)

/-- A number that is filled up stays within 64 bits. -/
theorem fillWord_lt {n : Nat} (h : n < 2 ^ 64) (cs : List Char) : (fillWord n cs).1 < 2 ^ 64 := by
  fun_induction fillWord n cs with
  | case1 => exact h
  | case2 _ _ _ _ hnext ih => exact ih hnext
  | case3 => exact h

/-- The digits that do not fit are the last ones. -/
theorem fillWord_suffix (n : Nat) (cs : List Char) : (fillWord n cs).2 <:+ cs := by
  fun_induction fillWord n cs with
  | case1 => exact List.suffix_rfl
  | case2 _ _ _ _ _ ih => exact ih.trans (List.suffix_cons _ _)
  | case3 => exact List.suffix_rfl

/-- The two factors of a numeral. Digits before the point that do not fit raise the power of ten,
and those behind it are dropped. Each side of the point is filled up on its own, so a digit behind
the point may fit although the last one before it did not. -/
def Numeral.scaled (n : Numeral) : Scaled :=
  let (lead, unfitWhole) := fillWord 0 n.whole
  let (digits, unfitFraction) := fillWord lead n.fraction
  ⟨digits, n.exponent + unfitWhole.length - (n.fraction.length - unfitFraction.length : Nat)⟩

/-- The ratio of whole numbers that the bits of a nonnegative finite double stand for. -/
def ratioOfBits (bits : Nat) : Nat × Nat :=
  match Double.ofBits bits with
  | .finite _ mantissa exponent => (mantissa * 2 ^ exponent.toNat, 2 ^ (-exponent).toNat)
  | _ => (0, 1)

/-- Bits of the double nearest to the product of two nonnegative doubles. -/
def productBits (x y : Nat) : Nat :=
  let (a, b) := ratioOfBits x
  let (c, d) := ratioOfBits y
  nearestBits (a * c) (b * d)

/-- Bits of the double nearest to the quotient of a nonnegative and a positive double. -/
def quotientBits (x y : Nat) : Nat :=
  let (a, b) := ratioOfBits x
  let (c, d) := ratioOfBits y
  nearestBits (a * d) (b * c)

/-- The largest exponent of a power of ten among the doubles. -/
def maxTenExponent : Nat := 308

/-- Bits of the double nearest to a power of ten. -/
def tenBits (exponent : Nat) : Nat := nearestBits (10 ^ exponent) 1

/-- Bits of a nonnegative double that is scaled by a power of ten, absent beyond the largest double.
Division by a power beyond the doubles goes by steps of the largest one, each rounded. -/
def scaleBits? (bits : Nat) (exponent : Int) : Option Nat :=
  if exponent.natAbs ≤ maxTenExponent then
    if 0 ≤ exponent then
      let product := productBits bits (tenBits exponent.natAbs)
      if product < infinityBits then some product else none
    else some (quotientBits bits (tenBits exponent.natAbs))
  else if bits = 0 then some 0
  else if 0 ≤ exponent then none
  else scaleBits? (quotientBits bits (tenBits maxTenExponent)) (exponent + maxTenExponent)
termination_by exponent.natAbs
decreasing_by simp only [maxTenExponent] at *; omega

/-- The double that a numeral stands for by its two factors, absent beyond the largest double. -/
def Numeral.scaledFloat? (n : Numeral) : Option Float :=
  let s := n.scaled
  (scaleBits? (nearestBits s.digits 1) s.exponent).map (ofSignedBits n.negative)

end Teletype.Decimal
