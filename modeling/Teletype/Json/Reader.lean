import Teletype.Decimal.Scaled
import Teletype.Json.Basic
import Teletype.Text.Span
/-!
# Reading JSON text

Strict JSON: four blank characters, no comments, no raw control characters in strings, no leading
zeros. A text is one value with blanks around it. Whole numbers within 64 bits stay whole; all other
numbers become doubles by way of their leading digits and a power of ten.
-/

namespace Teletype.Json

/-- Whether a character may stand between tokens. -/
def isSpace (c : Char) : Bool := c == ' ' || c == '\t' || c == '\n' || c == '\r'

/-- The characters from the next token on. -/
def skipSpace (cs : List Char) : List Char := cs.dropWhile isSpace

/-- The rest of the text after a fixed word. -/
def afterWord? : List Char → List Char → Option (List Char)
  | [], rest => some rest
  | w :: word, c :: cs => if w = c then afterWord? word cs else none
  | _ :: _, [] => none

/-- The character that a one-letter escape stands for. -/
def escaped? : Char → Option Char
  | '"' => some '"'
  | '\\' => some '\\'
  | '/' => some '/'
  | 'b' => some '\x08'
  | 'f' => some '\x0c'
  | 'n' => some '\n'
  | 'r' => some '\r'
  | 't' => some '\t'
  | _ => none

/-- The value of exactly four hexadecimal digits. -/
def fourDigits? (a b c d : Char) : Option Nat := Text.hexNumber? [a, b, c, d]

/-- The character of a surrogate pair. -/
def surrogatePair (high low : Nat) : Char :=
  Char.ofNat (0x10000 + (high - 0xd800) * 0x400 + (low - 0xdc00))

/-- Whether a code unit is the first half of a pair. -/
def isHighSurrogate (n : Nat) : Bool := decide (0xd800 ≤ n ∧ n < 0xdc00)

/-- Whether a code unit is the second half of a pair. -/
def isLowSurrogate (n : Nat) : Bool := decide (0xdc00 ≤ n ∧ n < 0xe000)

/-- Reads a string from behind its opening quote. The characters are absent when an escape was half
of a pair. -/
def readString : List Char → Option (Option (List Char) × List Char)
  | [] => none
  | '"' :: rest => some (some [], rest)
  | '\\' :: 'u' :: a :: b :: c :: d :: '\\' :: 'u' :: e :: f :: g :: h :: rest => do
    let first ← fourDigits? a b c d
    let second ← fourDigits? e f g h
    if isHighSurrogate first && isLowSurrogate second then
      let (body, rest) ← readString rest
      some (body.map (surrogatePair first second :: ·), rest)
    else
      let (body, rest) ← readString ('\\' :: 'u' :: e :: f :: g :: h :: rest)
      if isHighSurrogate first || isLowSurrogate first then some (none, rest)
      else some (body.map (Char.ofNat first :: ·), rest)
  | '\\' :: 'u' :: a :: b :: c :: d :: rest => do
    let first ← fourDigits? a b c d
    let (body, rest) ← readString rest
    if isHighSurrogate first || isLowSurrogate first then some (none, rest)
    else some (body.map (Char.ofNat first :: ·), rest)
  | '\\' :: c :: rest => do
    let e ← escaped? c
    let (body, rest) ← readString rest
    some (body.map (e :: ·), rest)
  | c :: rest =>
    if c.toNat < 0x20 then none
    else do
      let (body, rest) ← readString rest
      some (body.map (c :: ·), rest)

/-- Reads a string value from behind its opening quote. -/
def readText? (cs : List Char) : Option (Json × List Char) :=
  (readString cs).map fun (body, rest) ↦
    (match body with
      | some chars => .string (String.ofList chars)
      | none => .unreadable, rest)

/-- Reads the digits of a whole part, which has no leading zero. -/
def readWhole? (cs : List Char) : Option (List Char × List Char) :=
  match cs.span Decimal.isDigit with
  | ([], _) => none
  | ('0' :: _ :: _, _) => none
  | split => some split

/-- Reads an optional fraction, which has at least one digit. -/
def readFraction? : List Char → Option (Option (List Char) × List Char)
  | '.' :: cs =>
    match cs.span Decimal.isDigit with
    | ([], _) => none
    | (digits, rest) => some (some digits, rest)
  | cs => some (none, cs)

/-- Reads an optional exponent, which has at least one digit. -/
def readExponent? : List Char → Option (Option Int × List Char)
  | c :: cs =>
    if c = 'e' ∨ c = 'E' then
      let (negative, cs) := Decimal.takeSign cs
      match cs.span Decimal.isDigit with
      | ([], _) => none
      | (digits, rest) =>
        let n : Int := Decimal.digitsValue digits
        some (some (if negative then -n else n), rest)
    else some (none, c :: cs)
  | [] => some (none, [])

/-- The number written by a numeral: a double, unless it lies beyond them. -/
def ofNumeral (numeral : Decimal.Numeral) : Json :=
  match numeral.scaledFloat? with
  | some x => .number (.float x)
  | none => .unreadable

/-- The number written by digits alone: whole within 64 bits, a double beyond and for minus zero. -/
def ofDigits (negative : Bool) (digits : List Char) : Json :=
  let n := Decimal.digitsValue digits
  if negative then
    if n ≠ 0 ∧ n ≤ 2 ^ 63 then .number (.int (-n)) else ofNumeral ⟨true, digits, [], 0⟩
  else if n < 2 ^ 64 then .number (.int n) else ofNumeral ⟨false, digits, [], 0⟩

/-- Reads a number. -/
def readNumber? (cs : List Char) : Option (Json × List Char) := do
  let (negative, cs) := match cs with
    | '-' :: cs => (true, cs)
    | cs => (false, cs)
  let (whole, cs) ← readWhole? cs
  let (fraction, cs) ← readFraction? cs
  let (exponent, cs) ← readExponent? cs
  match fraction, exponent with
  | none, none => some (ofDigits negative whole, cs)
  | _, _ => some (ofNumeral ⟨negative, whole, fraction.getD [], exponent.getD 0⟩, cs)

/-- The deepest nesting of arrays and objects that is read. -/
def maxDepth : Nat := 127

/-- A container, unless it stands too deep. -/
def atDepth (depth : Nat) (j : Json) : Json := if depth < maxDepth then j else .unreadable

mutual

/-- Reads a value inside `depth` containers. -/
def readValue (depth : Nat) : Nat → List Char → Option (Json × List Char)
  | 0, _ => none
  | fuel + 1, cs =>
    match skipSpace cs with
    | [] => none
    | '"' :: rest => readText? rest
    | '[' :: rest => do
      match skipSpace rest with
      | ']' :: rest => some (atDepth depth (.array []), rest)
      | rest =>
        let (items, rest) ← readItems (depth + 1) fuel rest
        some (atDepth depth (.array items), rest)
    | '\x7b' :: rest => do
      match skipSpace rest with
      | '\x7d' :: rest => some (atDepth depth (.object []), rest)
      | rest =>
        let (members, rest) ← readMembers (depth + 1) fuel rest
        match members with
        | some members => some (atDepth depth (.object members), rest)
        | none => some (.unreadable, rest)
    | 't' :: rest => (afterWord? ['r', 'u', 'e'] rest).map (.bool true, ·)
    | 'f' :: rest => (afterWord? ['a', 'l', 's', 'e'] rest).map (.bool false, ·)
    | 'n' :: rest => (afterWord? ['u', 'l', 'l'] rest).map (.null, ·)
    | cs => readNumber? cs

/-- Reads the items of an array from the first one to behind the closing bracket. -/
def readItems (depth : Nat) : Nat → List Char → Option (List Json × List Char)
  | 0, _ => none
  | fuel + 1, cs => do
    let (item, rest) ← readValue depth fuel cs
    match skipSpace rest with
    | ',' :: rest =>
      let (items, rest) ← readItems depth fuel rest
      some (item :: items, rest)
    | ']' :: rest => some ([item], rest)
    | _ => none

/-- Reads the members of an object from the first key to behind the closing brace. They are absent
when a key has no value as a text. -/
def readMembers (depth : Nat) : Nat → List Char → Option (Option (List (String × Json)) × List Char)
  | 0, _ => none
  | fuel + 1, cs => do
    let '"' :: rest := skipSpace cs | none
    let (key, rest) ← readString rest
    let ':' :: rest := skipSpace rest | none
    let (value, rest) ← readValue depth fuel rest
    let add (members : Option (List (String × Json))) : Option (List (String × Json)) :=
      match key, members with
      | some key, some members => some ((String.ofList key, value) :: members)
      | _, _ => none
    match skipSpace rest with
    | ',' :: rest =>
      let (members, rest) ← readMembers depth fuel rest
      some (add members, rest)
    | '\x7d' :: rest => some (add (some []), rest)
    | _ => none

end

/-- Reads a text that is one JSON value. -/
def ofText? (s : String) : Option Json := do
  let cs := s.toList
  let (value, rest) ← readValue 0 (cs.length + 1) cs
  if (skipSpace rest).isEmpty then some value else none

end Teletype.Json
