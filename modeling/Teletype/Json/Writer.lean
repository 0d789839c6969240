import Teletype.Json.Basic
/-!
# Writing JSON text

The compact form: no blanks, members in their order, and only the escapes that JSON demands.
-/

namespace Teletype

/-- JSON numbers are positional from `0.00001` up to sixteen digits, keep a point, and keep the sign
of zero. What is not finite has no number and is written `null`. -/
def jsonLayout : Decimal.Layout where
  tie := .toEven
  positional e := decide (-5 ≤ e ∧ e ≤ 15)
  wholeSuffix := ".0"
  signedZero := true
  nan := "null"
  infinity := "null"

namespace Json

/-- A lowercase hexadecimal digit. -/
def hexDigit (n : Nat) : Char := Nat.digitChar n

/-- A character as it stands in a JSON string. -/
def escapeChar (c : Char) : List Char :=
  if c = '"' then ['\\', '"']
  else if c = '\\' then ['\\', '\\']
  else if c = '\x08' then ['\\', 'b']
  else if c = '\x0c' then ['\\', 'f']
  else if c = '\n' then ['\\', 'n']
  else if c = '\r' then ['\\', 'r']
  else if c = '\t' then ['\\', 't']
  else if c.toNat < 0x20 then
    ['\\', 'u', '0', '0', hexDigit (c.toNat / 16), hexDigit (c.toNat % 16)]
  else [c]

/-- A text as a JSON string. -/
def quote (s : String) : String := "\"" ++ String.ofList (s.toList.flatMap escapeChar) ++ "\""

/-- A double as a JSON number. -/
def floatText (x : Float) : String :=
  if Decimal.isFinite x then jsonLayout.text x else "null"

/-- A number as JSON text. -/
def numberText : JsonNumber → String
  | .int n => Decimal.intText n
  | .float x => floatText x

mutual

/-- The text of a value. -/
def text : Json → String
  | null | unreadable => "null"
  | bool b => if b then "true" else "false"
  | number n => numberText n
  | string s => quote s
  | array items => "[" ++ String.intercalate "," (texts items) ++ "]"
  | object members => "\x7b" ++ String.intercalate "," (memberTexts members) ++ "\x7d"

/-- The texts of several values. -/
def texts : List Json → List String
  | [] => []
  | item :: items => item.text :: texts items

/-- The texts of several members. -/
def memberTexts : List (String × Json) → List String
  | [] => []
  | (key, value) :: members => (quote key ++ ":" ++ value.text) :: memberTexts members

end

end Json

end Teletype
