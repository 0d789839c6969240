import Teletype.Regex.Flags
/-!
# Escapes of patterns

What may stand behind a backslash: characters by their numbers, classes by their letters, properties
by their names, and tests of the place.
-/

namespace Teletype.Regex

/-- What an escape or a plain character stands for. -/
inductive Primitive where
  /-- A character, and whether it was written as the number of a byte. -/
  | literal (c : Char) (byte : Bool)
  | look (a : Assertion)
  | set (s : CharSet)

/-- The characters that mean something in a pattern. -/
def isMeta (c : Char) : Bool := "\\.+*?()|[]\x7b\x7d^$#&-~".toList.contains c

/-- Whether a backslash may keep a character as it is. -/
def isEscapable (c : Char) : Bool :=
  isMeta c || (decide (c.toNat < 0x80) && !c.isAlphanum && c != '<' && c != '>')

/-- The control character of an escape. -/
def controlEscape? : Char → Option Char
  | 'a' => some '\x07'
  | 'f' => some '\x0c'
  | 't' => some '\t'
  | 'n' => some '\n'
  | 'r' => some '\r'
  | 'v' => some '\x0b'
  | _ => none

/-- The character of a number, if there is one. -/
def charOfNumber? (n : Nat) : Option Char :=
  if n < 0xd800 ∨ (0xe000 ≤ n ∧ n < 0x110000) then some (Char.ofNat n) else none

/-- Reads a fixed number of hexadecimal digits. -/
def readHexDigits (f : Flags) : Nat → Nat → List Char → Reading (Nat × List Char)
  | 0, n, cs => .ok (n, cs)
  | _ + 1, _, [] => .error .badEscape
  | count + 1, n, c :: cs =>
    match Text.hexDigit? c with
    | some d => readHexDigits f count (16 * n + d) (f.skip cs)
    | none => .error .badEscape

/-- Reads hexadecimal digits up to a closing brace. -/
def readHexBrace (f : Flags) : Nat → Option Nat → List Char → Reading (Nat × List Char)
  | 0, _, _ | _, _, [] => .error .badEscape
  | fuel + 1, n, c :: cs =>
    if c = '\x7d' then
      match n with
      | some n => .ok (n, f.skip cs)
      | none => .error .badEscape
    else
      match Text.hexDigit? c with
      | some d => readHexBrace f fuel (some (16 * n.getD 0 + d)) (f.skip cs)
      | none => .error .badEscape

/-- Reads the number of a character behind its letter, with the digits that the letter asks for. -/
def readHex (f : Flags) (digits : Nat) (cs : List Char) :
    Reading (Primitive × List Char) :=
  let finish (byte : Bool) : Nat × List Char → Reading (Primitive × List Char)
    | (n, rest) =>
      match charOfNumber? n with
      | some c => .ok (.literal c byte, rest)
      | none => .error .badEscape
  match f.skip cs with
  | '\x7b' :: rest => readHexBrace f (rest.length + 1) none (f.skip rest) >>= finish false
  | rest => readHexDigits f digits 0 rest >>= finish (digits == 2)

/-- Reads the letters of a name up to its closing brace. -/
def readBraceName (f : Flags) : Nat → List Char → Reading (List Char × List Char)
  | 0, _ | _, [] => .error .badEscape
  | fuel + 1, c :: cs =>
    if c = '\x7d' then .ok ([], cs)
    else (readBraceName f fuel (f.skip cs)).map fun (name, rest) ↦ (c :: name, rest)

/-- The set of a property name as it is written, which may give a property and its value. -/
def propertySet? (name : List Char) : Option (CharSet × Bool) :=
  let value (negated : Bool) (property value : List Char) : Option (CharSet × Bool) :=
    (CharSet.valued? (CharSet.normalName property) (CharSet.normalName value)).map (·, negated)
  let rec differs : List Char → Option (List Char × List Char)
    | '!' :: '=' :: rest => some ([], rest)
    | c :: rest => (differs rest).map fun (before, after) ↦ (c :: before, after)
    | [] => none
  match differs name, Text.splitAtFirst ':' name, Text.splitAtFirst '=' name with
  | some (property, v), _, _ => value true property v
  | none, some (property, v), _ => value false property v
  | none, none, some (property, v) => value false property v
  | none, none, none => (CharSet.named? (CharSet.normalName name)).map (·, false)

/-- Reads a property behind its letter. -/
def readProperty (f : Flags) (negated : Bool) (cs : List Char) :
    Reading (Primitive × List Char) := do
  let (name, rest) ← match f.skip cs with
    | [] => throw .badEscape
    | '\\' :: _ => throw .unknownClass
    | '\x7b' :: rest => readBraceName f (rest.length + 1) (f.skip rest)
    | c :: rest => pure ([c], f.skip rest)
  if !f.unicode then throw .notUnicode
  match propertySet? name with
  | some (s, differs) => return (.set (← f.finish (negated != differs) s), rest)
  | none => throw .unknownClass

/-- Whether a character may stand in the name of a special word edge. -/
def isEdgeNameChar (c : Char) : Bool := c.isAlpha || c == '-'

/-- Reads the letters of the name of a word edge. -/
def readEdgeName (f : Flags) : Nat → List Char → List Char × List Char
  | 0, cs => ([], cs)
  | _, [] => ([], [])
  | fuel + 1, c :: cs =>
    if isEdgeNameChar c then
      let (name, rest) := readEdgeName f fuel (f.skip cs)
      (c :: name, rest)
    else ([], c :: cs)

/-- Reads what may follow the escape of a word boundary: the name of an edge in braces. Braces that
do not begin with a letter are a count and are left alone. -/
def readWordEdge (f : Flags) (cs : List Char) : Reading (WordEdge × List Char) :=
  match cs with
  | '\x7b' :: rest =>
    match f.skip rest with
    | [] => .error .badEscape
    | c :: inner =>
      if isEdgeNameChar c then
        match readEdgeName f (inner.length + 1) (c :: inner) with
        | (name, '\x7d' :: rest) =>
          match String.ofList name with
          | "start" => .ok (.start, rest)
          | "end" => .ok (.stop, rest)
          | "start-half" => .ok (.startHalf, rest)
          | "end-half" => .ok (.stopHalf, rest)
          | _ => .error .badEscape
        | _ => .error .badEscape
      else .ok (.boundary, cs)
  | _ => .ok (.boundary, cs)

/-- The set of a class letter, negated if the letter is a capital. -/
def letterSet? (f : Flags) (c : Char) : Option (Reading CharSet) :=
  let unfolded := { f with ignoreCase := false }
  match CharSet.letterClass? f.unicode c with
  | some s => some (unfolded.finish false s)
  | none =>
    if 'A' ≤ c ∧ c ≤ 'Z' then
      (CharSet.letterClass? f.unicode (Text.asciiLower c)).map (unfolded.finish true)
    else none

/-- Reads an escape behind its backslash. -/
def readEscape (f : Flags) (cs : List Char) : Reading (Primitive × List Char) :=
  match cs with
  | [] => .error .badEscape
  | c :: rest =>
    if Decimal.isDigit c then .error .badEscape
    else if c = 'x' then readHex f 2 rest
    else if c = 'u' then readHex f 4 rest
    else if c = 'U' then readHex f 8 rest
    else if c = 'p' then readProperty f false rest
    else if c = 'P' then readProperty f true rest
    else if isEscapable c then .ok (.literal c false, rest)
    else
      match letterSet? f c, controlEscape? c with
      | some s, _ => s.map fun s ↦ (.set s, rest)
      | none, some control => .ok (.literal control false, rest)
      | none, none =>
        match c with
        | 'A' => .ok (.look .textStart, rest)
        | 'z' => .ok (.look .textEnd, rest)
        | 'b' => (readWordEdge f rest).map fun (edge, rest) ↦ (.look (.word f.wordSet edge), rest)
        | 'B' => .ok (.look (.word f.wordSet .inside), rest)
        | '<' => .ok (.look (.word f.wordSet .start), rest)
        | '>' => .ok (.look (.word f.wordSet .stop), rest)
        | _ => .error .badEscape

end Teletype.Regex
