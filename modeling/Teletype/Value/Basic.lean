import Teletype.Text.Blank
import Teletype.Decimal.Numeral
import Teletype.Text.Case
/-!
# Values

A story variable holds a truth value, a number or a text. Every value has a display text and a
truthiness, and those that can be read as a number take part in arithmetic and comparison.
-/

namespace Teletype

/-- What a variable holds. -/
inductive Value where
  | bool (b : Bool)
  | number (x : Float)
  | text (s : String)

/-- Display text has integers without a point, and turns to exponents from `1e21` on and below
`0.000001`. -/
def displayLayout : Decimal.Layout where
  tie := .up
  positional e := decide (-7 < e ∧ e < 21)
  wholeSuffix := ""
  signedZero := false
  nan := "NaN"
  infinity := "Infinity"

namespace Value

/-- The words `true` and `false`. -/
def boolText (b : Bool) : String := if b then "true" else "false"

/-- The text shown to the player. -/
def display : Value → String
  | bool b => boolText b
  | number x => displayLayout.text x
  | text s => s

/-- The text of a text value. -/
def asText? : Value → Option String
  | text s => some s
  | _ => none

/-- The truth value of a boolean. -/
def asBool? : Value → Option Bool
  | bool b => some b
  | _ => none

/-- Whether a character is a plus or a minus. -/
def isSign (c : Char) : Bool := c == '+' || c == '-'

/-- Reads a text as a number: blanks around it do not count, nothing at all is zero, and
`Infinity` may stand after any signs. -/
def readNumber? (s : String) : Option Float :=
  let cs := Text.trimChars s.toList
  if cs.isEmpty then some 0
  else if cs.dropWhile isSign == "Infinity".toList then
    some (Decimal.infinity (cs.head? == some '-'))
  else Decimal.floatOfChars? cs

/-- The number a value can be read as, if any. -/
def toNumber? : Value → Option Float
  | number x => if x.isNaN then none else some x
  | bool b => some (if b then 1 else 0)
  | text s => readNumber? s

/-- Whether a value counts as true: not `false`, zero, NaN or the empty text. -/
def isTruthy : Value → Bool
  | bool b => b
  | number x => x != 0 && !x.isNaN
  | text s => !s.isEmpty

/-- The kind of a value in words. -/
def typeName : Value → String
  | bool _ => "boolean"
  | number _ => "number"
  | text _ => "string"

/-- Equality of values of one kind; numbers compare as numbers, so NaN differs from itself. -/
def same : Value → Value → Bool
  | bool a, bool b => a == b
  | number x, number y => x == y
  | text s, text t => s == t
  | _, _ => false

/-- Lowercases both values when both are texts. -/
def foldPair : Value → Value → Value × Value
  | text s, text t => (text (Text.lowercase s), text (Text.lowercase t))
  | a, b => (a, b)

end Value

end Teletype
