import Teletype.Decimal.Double
/-!
# Shortest digits

The fewest decimal digits that read back as a given double, and of those the ones nearest to it.
The doubles around `mantissa * 2 ^ exponent` bound an interval of numbers that round to it; a
decimal grid is fine enough once one of the two grid points around the value falls inside.
-/

namespace Teletype.Decimal

/-- Digits of a positive number: `0.d₁d₂…dₙ` times ten to the power `point`, read from
`significand = d₁d₂…dₙ`, whose last digit is not a zero. -/
structure Digits where
  significand : Nat
  point : Int
  deriving DecidableEq, Repr

/-- How a value half-way between two equally short decimals is written. -/
inductive Tie where
  | up
  | toEven
  deriving DecidableEq, Repr

/-- A positive double with the interval of numbers that round to it, all over one denominator. -/
structure Neighbourhood where
  value : Nat
  low : Nat
  high : Nat
  den : Nat
  /-- Whether the ends of the interval round to the double as well. -/
  closed : Bool

/-- The interval around `mantissa * 2 ^ exponent`. Just below a power of two the doubles lie twice
as dense, except at the subnormal end. -/
def Neighbourhood.of (mantissa : Nat) (exponent : Int) : Neighbourhood :=
  let up := 2 ^ exponent.toNat
  let below := if mantissa = 2 ^ 52 ∧ exponent ≠ -1074 then 1 else 2
  { value := 4 * mantissa * up
    low := (4 * mantissa - below) * up
    high := (4 * mantissa + 2) * up
    den := 4 * 2 ^ (-exponent).toNat
    closed := mantissa % 2 == 0 }

/-- Whether `num / den` rounds to the double of a neighbourhood with that denominator. -/
def Neighbourhood.holds (n : Neighbourhood) (num den : Nat) : Bool :=
  if n.closed then
    decide (n.low * den ≤ num * n.den ∧ num * n.den ≤ n.high * den)
  else
    decide (n.low * den < num * n.den ∧ num * n.den < n.high * den)

/-- Ten to a whole power as a fraction. -/
def tenPower (k : Int) : Nat × Nat := (10 ^ k.toNat, 10 ^ (-k).toNat)

/-- The least power of ten above `num / den`, searched upwards from a lower bound. -/
def pointAbove (num den : Nat) : Nat → Int → Int
  | 0, k => k
  | fuel + 1, k =>
    let ten := tenPower k
    if num * ten.2 < den * ten.1 then k else pointAbove num den fuel (k + 1)

/-- The power of ten of the point: `10 ^ (point - 1) ≤ num / den < 10 ^ point`. The search starts
from the logarithm to base two, so it takes three steps at most. -/
def pointOf (num den : Nat) : Int :=
  let log := ((num.log2 : Int) - den.log2 - 1) * 30103
  pointAbove num den 4 (log / 100000)

/-- The grid point on `count` digits that rounds to the double and is nearest to it, if any does. -/
def onGrid? (n : Neighbourhood) (point : Int) (tie : Tie) (count : Nat) : Option Nat :=
  let unit := tenPower (point - count)
  let num := n.value * unit.2
  let den := n.den * unit.1
  let below := num / den
  let above := below + 1
  let rest := num % den
  let holds (c : Nat) : Bool := n.holds (c * unit.1) unit.2
  match holds below, holds above with
  | false, false => none
  | true, false => some below
  | false, true => some above
  | true, true =>
    if 2 * rest < den then some below
    else if den < 2 * rest then some above
    else match tie with
      | .up => some above
      | .toEven => some (if below % 2 = 0 then below else above)

/-- Drops the zeros at the end of a significand of at most `fuel` digits. -/
def dropZeros : Nat → Nat → Nat
  | 0, c => c
  | fuel + 1, c => if c ≠ 0 ∧ c % 10 = 0 then dropZeros fuel (c / 10) else c

/-- The number of decimal digits of a whole number. -/
def digitCount (c : Nat) : Nat := (Nat.toDigits 10 c).length

/-- Searches the grids on `count`, `count + 1`, … digits. -/
def firstGrid (n : Neighbourhood) (point : Int) (tie : Tie) : Nat → Nat → Digits
  | 0, count =>
    let (up, down) := tenPower (point - count)
    ⟨n.value * down / (n.den * up), point⟩
  | fuel + 1, count =>
    match onGrid? n point tie count with
    | some c => ⟨dropZeros 18 c, if digitCount c > count then point + 1 else point⟩
    | none => firstGrid n point tie fuel (count + 1)

/-- The shortest digits of the positive double `mantissa * 2 ^ exponent`. Seventeen digits always
suffice. -/
def shortest (tie : Tie) (mantissa : Nat) (exponent : Int) : Digits :=
  let n := Neighbourhood.of mantissa exponent
  firstGrid n (pointOf n.value n.den) tie 17 1

end Teletype.Decimal
