import Teletype.Ron.Basic
import Teletype.Text.Span
/-!
# Tokens of RON

Blanks with comments, identifiers, characters, strings and numbers. Every reader takes a token off
the front of the text, or fails.
-/

namespace Teletype.Ron

/-- Whether a character may stand between tokens. -/
def isSpace (c : Char) : Bool := c == ' ' || c == '\n' || c == '\t' || c == '\r'

/-- Where skipping stands: between tokens, in a comment that ends with its line, or in a bracketed
comment with a number of others open around it. -/
inductive Skipping where
  | between
  | line
  | block (outer : Nat)

/-- The text from the next token on. Bracketed comments nest and have to end. -/
def skipFrom : Skipping → List Char → Option (List Char)
  | .between, '/' :: '/' :: cs => skipFrom .line cs
  | .between, '/' :: '*' :: cs => skipFrom (.block 0) cs
  | .between, c :: cs =>
    if isSpace c then skipFrom .between cs
    else if c = '/' then none
    else some (c :: cs)
  | .between, [] => some []
  | .line, c :: cs => if c = '\n' then skipFrom .between cs else skipFrom .line cs
  | .line, [] => some []
  | .block outer, '/' :: '*' :: cs => skipFrom (.block (outer + 1)) cs
  | .block 0, '*' :: '/' :: cs => skipFrom .between cs
  | .block (outer + 1), '*' :: '/' :: cs => skipFrom (.block outer) cs
  | .block outer, _ :: cs => skipFrom (.block outer) cs
  | .block _, [] => none

/-- The text from the next token on. -/
def skip (cs : List Char) : Option (List Char) := skipFrom .between cs

/-- The rest of the text behind a fixed piece. -/
def after? (piece : List Char) (cs : List Char) : Option (List Char) :=
  if piece.isPrefixOf cs then some (cs.drop piece.length) else none

/-- Whether a character may begin an identifier. -/
def isIdentifierStart (c : Char) : Bool :=
  decide ('a' ≤ c ∧ c ≤ 'z') || decide ('A' ≤ c ∧ c ≤ 'Z') || c == '_'

/-- Whether a character may continue an identifier. -/
def isIdentifierRest (c : Char) : Bool := isIdentifierStart c || Decimal.isDigit c

/-- Whether a character may stand in an identifier that is marked as raw. -/
def isRawRest (c : Char) : Bool := isIdentifierRest c || c == '.' || c == '+' || c == '-'

/-- The rest of the text behind a word that is not the beginning of a longer one. -/
def afterWord? (word : String) (cs : List Char) : Option (List Char) := do
  let rest ← after? word.toList cs
  if (rest.head?.map isIdentifierRest).getD false then none else some rest

/-- Reads a plain identifier, behind which nothing may stand that only raw ones contain. -/
def readPlainIdentifier? (cs : List Char) : Option (String × List Char) :=
  if (cs.head?.map isIdentifierStart).getD false then
    let (name, rest) := cs.span isIdentifierRest
    if (rest.head?.map isRawRest).getD false then none
    else some (String.ofList name, rest)
  else none

/-- Reads an identifier: a plain one, or a raw one behind `r#`. -/
def readIdentifier? (cs : List Char) : Option (String × List Char) :=
  match cs with
  | 'r' :: '#' :: rest =>
    match rest.span isRawRest with
    | ([], _) => none
    | (name, rest) => some (String.ofList name, rest)
  | 'r' :: '"' :: _ => none
  | ['r'] => none
  | cs => readPlainIdentifier? cs

/-- Reads up to a number of hexadecimal digits and gives their value and the number of them. -/
def readHexDigits : Nat → List Char → Nat × Nat × List Char
  | limit + 1, c :: cs =>
    match Text.hexDigit? c with
    | some d =>
      let (value, count, rest) := readHexDigits limit cs
      (d * 16 ^ count + value, count + 1, rest)
    | none => (0, 0, c :: cs)
  | _, cs => (0, 0, cs)

/-- The character with a code point. -/
def charOfCode? (n : Nat) : Option Char :=
  if n.isValidChar then some (Char.ofNat n) else none

/-- Reads an escape from behind its backslash. -/
def readEscape? : List Char → Option (Char × List Char)
  | '\'' :: cs => some ('\'', cs)
  | '"' :: cs => some ('"', cs)
  | '\\' :: cs => some ('\\', cs)
  | 'n' :: cs => some ('\n', cs)
  | 'r' :: cs => some ('\r', cs)
  | 't' :: cs => some ('\t', cs)
  | '0' :: cs => some ('\x00', cs)
  | 'x' :: a :: b :: cs => (Text.hexNumber? [a, b]).map fun n ↦ (Char.ofNat n, cs)
  | 'u' :: '\x7b' :: cs =>
    match readHexDigits 6 cs with
    | (_, 0, _) => none
    | (code, _, '\x7d' :: rest) => (charOfCode? code).map (·, rest)
    | _ => none
  | _ => none

/-- Reads a character from behind its opening quote. -/
def readChar? (cs : List Char) : Option (Char × List Char) :=
  match cs with
  | '\\' :: rest =>
    match readEscape? rest with
    | some (c, '\'' :: rest) => some (c, rest)
    | _ => none
  | c :: '\'' :: rest => if c = '\'' then none else some (c, rest)
  | _ => none

/-- Reads a string from behind its opening quote, in at most as many steps as the fuel allows. -/
def readQuoted? : Nat → List Char → Option (List Char × List Char)
  | 0, _ => none
  | _ + 1, [] => none
  | _ + 1, '"' :: rest => some ([], rest)
  | fuel + 1, '\\' :: rest => do
    let (c, rest) ← readEscape? rest
    let (body, rest) ← readQuoted? fuel rest
    some (c :: body, rest)
  | fuel + 1, c :: rest => do
    let (body, rest) ← readQuoted? fuel rest
    some (c :: body, rest)

/-- Reads a raw string from behind its opening quote up to the piece that closes it. -/
def readUntil? (closing : List Char) : List Char → Option (List Char × List Char)
  | [] => none
  | c :: cs =>
    match after? closing (c :: cs) with
    | some rest => some ([], rest)
    | none => (readUntil? closing cs).map fun (body, rest) ↦ (c :: body, rest)

/-- Reads a raw string from behind its `r`. It ends at a quote with as many hashes behind it as
stand in front of its opening quote. -/
def readRaw? (cs : List Char) : Option (List Char × List Char) :=
  match cs.span (· == '#') with
  | (hashes, '"' :: rest) => readUntil? ('"' :: hashes) rest
  | _ => none

/-- Reads a string, quoted or raw. -/
def readString? (cs : List Char) : Option (String × List Char) :=
  let body := match cs with
    | '"' :: rest => readQuoted? (rest.length + 1) rest
    | 'r' :: rest => readRaw? rest
    | _ => none
  body.map fun (body, rest) ↦ (String.ofList body, rest)

/-- Whether a character may stand in a number with a point or an exponent. -/
def isFloatChar (c : Char) : Bool :=
  Decimal.isDigit c || c == 'e' || c == 'E' || c == '.' || c == '+' || c == '-' || c == '_'

/-- Whether a character may stand among the digits of a whole number. -/
def isIntegerChar (c : Char) : Bool := (Text.hexDigit? c).isSome || c == '_'

/-- The spellings of the numbers that have no digits. -/
def specialNumbers : List (String × Float) :=
  [("inf", Decimal.infinity false), ("+inf", Decimal.infinity false),
    ("-inf", Decimal.infinity true), ("NaN", 0 / 0), ("+NaN", 0 / 0), ("-NaN", 0 / 0)]

/-- Reads one of the numbers that have no digits. -/
def readSpecial? (cs : List Char) : Option (Float × List Char) :=
  specialNumbers.findSome? fun (spelling, x) ↦ (afterWord? spelling cs).map (x, ·)

/-- Reads a decimal numeral. -/
def readFloat? (cs : List Char) : Option (Float × List Char) :=
  match readSpecial? cs with
  | some split => some split
  | none =>
    let (numeral, rest) := cs.span isFloatChar
    (Decimal.floatOfChars? numeral).map (·, rest)

/-- The base that a whole number is written in, and its digits. -/
def readBase : List Char → Nat × List Char
  | '0' :: 'x' :: cs => (16, cs)
  | '0' :: 'b' :: cs => (2, cs)
  | '0' :: 'o' :: cs => (8, cs)
  | cs => (10, cs)

/-- The value of digits in a base, between which underscores may stand. -/
def digitsInBase? (base : Nat) (digits : List Char) : Option Nat :=
  (digits.filter (· ≠ '_')).foldlM (fun n c ↦ do
    let d ← Text.hexDigit? c
    if d < base then some (base * n + d) else none) 0

/-- Reads a whole number without a sign. -/
def readMagnitude? (cs : List Char) : Option (Nat × List Char) :=
  let (base, cs) := readBase cs
  let (digits, rest) := cs.span isIntegerChar
  if digits.isEmpty || digits.head? == some '_' then none
  else (digitsInBase? base digits).map (·, rest)

/-- Reads a whole number within 64 bits. -/
def readInteger? (cs : List Char) : Option (Ron × List Char) :=
  match cs with
  | '+' :: cs => do
    let (n, rest) ← readMagnitude? cs
    if n < 2 ^ 63 then some (number (Decimal.ofInt n), rest) else none
  | '-' :: cs => do
    let (n, rest) ← readMagnitude? cs
    if n ≤ 2 ^ 63 then some (number (Decimal.ofInt (-n)), rest) else none
  | cs => do
    let (n, rest) ← readMagnitude? cs
    if n < 2 ^ 64 then some (natural n, rest) else none

/-- Whether the number at the head of a text goes on where a whole number would end. -/
def isFloatAhead (cs : List Char) : Bool :=
  let body := match cs with
    | '+' :: cs | '-' :: cs => cs
    | cs => cs
  decide ((body.takeWhile isIntegerChar).length < (body.takeWhile isFloatChar).length)

/-- Reads a number: a whole one if it is one, or else a decimal numeral. -/
def readNumber? (cs : List Char) : Option (Ron × List Char) :=
  let asFloat := (readFloat? cs).map fun (x, rest) ↦ (number x, rest)
  if isFloatAhead cs then asFloat else readInteger? cs <|> asFloat

end Teletype.Ron
