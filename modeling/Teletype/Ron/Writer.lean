import Teletype.Decimal.Layout
import Teletype.Text.Property
/-!
# Writing RON text

The compact form: no blanks, and strings in which every character that cannot be seen on its own is
written by its code point.
-/

namespace Teletype

namespace Text

/-- Whether a character leaves a mark or is the plain space. -/
def isPrintable (c : Char) : Bool :=
  c == ' ' || !(Category.isOther c || Category.anyContains Category.separators c || isIgnorable c)

/-- Whether a character shows itself in a quoted text. Marks that combine with the character in
front of them do not. -/
def isPlain (c : Char) : Bool := decide (' ' ≤ c ∧ c ≤ '~') || (isPrintable c && !isCombining c)

end Text

/-- RON numbers are positional at every magnitude, keep a point, and keep the sign of zero. -/
def ronLayout : Decimal.Layout where
  tie := .up
  positional _ := true
  wholeSuffix := ".0"
  signedZero := true
  nan := "NaN"
  infinity := "inf"

namespace Ron

/-- A character as it stands in a RON string. -/
def escapeChar (c : Char) : List Char :=
  if c = '\x00' then ['\\', '0']
  else if c = '\t' then ['\\', 't']
  else if c = '\r' then ['\\', 'r']
  else if c = '\n' then ['\\', 'n']
  else if c = '\'' ∨ c = '"' ∨ c = '\\' then ['\\', c]
  else if Text.isPlain c then [c]
  else ['\\', 'u', '\x7b'] ++ Nat.toDigits 16 c.toNat ++ ['\x7d']

/-- A text as a RON string. -/
def quote (s : String) : String := "\"" ++ String.ofList (s.toList.flatMap escapeChar) ++ "\""

end Ron

end Teletype
