import Teletype.Decimal.Layout
/-!
# Decimal numerals

A numeral is an optional sign, digits with an optional point, at least one digit on some side of it,
and an optional exponent. Its value is exact until the last step rounds it to a double.
-/

namespace Teletype.Decimal

/-- A decimal numeral, taken apart. -/
structure Numeral where
  negative : Bool
  /-- Digits before the point. -/
  whole : List Char
  /-- Digits after the point. -/
  fraction : List Char
  exponent : Int
  deriving DecidableEq, Repr

/-- Whether a character is one of the ten digits. -/
def isDigit (c : Char) : Bool := decide ('0' ≤ c) && decide (c ≤ '9')

/-- The number that a list of digits writes. -/
def digitsValue (cs : List Char) : Nat := cs.foldl (fun n c ↦ 10 * n + (c.toNat - 48)) 0

/-- Splits an optional sign off, telling whether it was a minus. -/
def takeSign : List Char → Bool × List Char
  | '-' :: cs => (true, cs)
  | '+' :: cs => (false, cs)
  | cs => (false, cs)

/-- Reads an exponent without its letter: an optional sign and at least one digit, to the end. -/
def exponent? (cs : List Char) : Option Int :=
  let (negative, digits) := takeSign cs
  if digits.isEmpty || !digits.all isDigit then none
  else if negative then some (-(digitsValue digits : Int)) else some (digitsValue digits)

namespace Numeral

/-- Reads what follows the digits before the point. -/
def readTail? (negative : Bool) (whole : List Char) (rest : List Char) : Option Numeral :=
  let (fraction, rest) :=
    match rest with
    | '.' :: rest => rest.span isDigit
    | rest => ([], rest)
  if whole.isEmpty && fraction.isEmpty then none
  else match rest with
    | [] => some ⟨negative, whole, fraction, 0⟩
    | c :: rest =>
      if c = 'e' ∨ c = 'E' then (exponent? rest).map fun e ↦ ⟨negative, whole, fraction, e⟩
      else none

/-- Reads a numeral that takes up all the characters. -/
def read? (cs : List Char) : Option Numeral :=
  let (negative, rest) := takeSign cs
  let (whole, rest) := rest.span isDigit
  readTail? negative whole rest

/-- The digits of a numeral as one whole number. -/
def significand (n : Numeral) : Nat := digitsValue (n.whole ++ n.fraction)

/-- The power of ten of the last digit. -/
def scale (n : Numeral) : Int := n.exponent - n.fraction.length

/-- The double nearest to a numeral. Powers of ten far beyond the range of doubles are settled from
the number of digits alone. -/
def toFloat (n : Numeral) : Float :=
  let m := n.significand
  let top := (digitCount m : Int) + n.scale
  if m = 0 ∨ top < -400 then ofSignedBits n.negative 0
  else if top > 400 then infinity n.negative
  else
    let ten := tenPower n.scale
    ofRatio n.negative (m * ten.1) ten.2

end Numeral

/-- The double that a decimal numeral writes, when the characters are one. -/
def floatOfChars? (cs : List Char) : Option Float := (Numeral.read? cs).map Numeral.toFloat

end Teletype.Decimal
