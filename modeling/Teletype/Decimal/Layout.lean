import Teletype.Decimal.Shortest
/-!
# Writing a double

Every text format of the library writes doubles from the same shortest digits and differs only in a
few decisions, which one `Layout` value records: where positional writing ends, whether whole
numbers keep a point, and how the special values are spelt.
-/

namespace Teletype.Decimal

/-- The decisions of one number format. -/
structure Layout where
  tie : Tie
  /-- Positional writing is used for this range of the decimal exponent, exponent form elsewhere. -/
  positional : Int → Bool
  /-- Written after a whole number in positional form. -/
  wholeSuffix : String
  /-- Whether zero keeps its sign. -/
  signedZero : Bool
  nan : String
  infinity : String

/-- The decimal digits of a whole number. -/
def natText (n : Nat) : String := String.ofList (Nat.toDigits 10 n)

/-- The decimal digits of a whole number, with a minus sign below zero. -/
def intText (n : Int) : String :=
  if n < 0 then "-" ++ natText n.natAbs else natText n.natAbs

/-- At least two digits. -/
def twoDigits (n : Nat) : String := if n < 10 then "0" ++ natText n else natText n

/-- Positional writing of `0.d₁d₂… * 10 ^ point`. -/
def positionalText (wholeSuffix : String) (d : Digits) : String :=
  let digits := Nat.toDigits 10 d.significand
  if d.point ≤ 0 then
    "0." ++ String.ofList (List.replicate (-d.point).toNat '0' ++ digits)
  else
    let split := d.point.toNat
    if digits.length ≤ split then
      String.ofList (digits ++ List.replicate (split - digits.length) '0') ++ wholeSuffix
    else
      String.ofList (digits.take split) ++ "." ++ String.ofList (digits.drop split)

/-- Exponent form: one digit, the other digits after a point, and an exponent with its sign. -/
def exponentText (d : Digits) : String :=
  let e := d.point - 1
  let mantissa :=
    match Nat.toDigits 10 d.significand with
    | first :: [] => String.singleton first
    | first :: rest => String.singleton first ++ "." ++ String.ofList rest
    | [] => "0"
  mantissa ++ "e" ++ (if e < 0 then "-" else "+") ++ natText e.natAbs

/-- The text of a double in a format. -/
def Layout.text (layout : Layout) (x : Float) : String :=
  match Double.ofFloat x with
  | .nan => layout.nan
  | .infinite negative => (if negative then "-" else "") ++ layout.infinity
  | .finite negative 0 _ =>
    (if negative && layout.signedZero then "-" else "") ++ "0" ++ layout.wholeSuffix
  | .finite negative mantissa exponent =>
    let d := shortest layout.tie mantissa exponent
    let body :=
      if layout.positional (d.point - 1) then positionalText layout.wholeSuffix d
      else exponentText d
    (if negative then "-" else "") ++ body

end Teletype.Decimal
