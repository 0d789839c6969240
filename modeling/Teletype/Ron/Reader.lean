import Teletype.Ron.Token
/-!
# Reading RON text

A text is one value with blanks and comments around it, behind the extensions it asks for. Lists of
values may end with one comma.
-/

namespace Teletype.Ron

/-- Reads fixed pieces with blanks behind each of them. -/
def afterPieces? : List String → List Char → Option (List Char)
  | [], cs => some cs
  | piece :: pieces, cs => after? piece.toList cs >>= skip >>= afterPieces? pieces

/-- The extensions that change what may be written. -/
inductive RonExtension where
  | implicitSome
  | unwrapNewtypes
  | unwrapVariantNewtypes
  deriving DecidableEq, Repr

/-- The extension with a given name. -/
def RonExtension.named? : String → Option RonExtension
  | "implicit_some" => some implicitSome
  | "unwrap_newtypes" => some unwrapNewtypes
  | "unwrap_variant_newtypes" => some unwrapVariantNewtypes
  | _ => none

/-- Reads names of extensions between commas. -/
def readExtensionNames? : Nat → List Char → Option (List RonExtension × List Char)
  | 0, _ => none
  | fuel + 1, cs => do
    let (name, cs) ← readIdentifier? cs
    let first ← RonExtension.named? name
    match ← skip cs with
    | ',' :: cs =>
      let cs ← skip cs
      if (cs.head?.map isIdentifierRest).getD false then
        let (more, rest) ← readExtensionNames? fuel cs
        some (first :: more, rest)
      else some ([first], cs)
    | cs => some ([first], cs)

/-- Reads the lines that ask for extensions at the head of a text. -/
def readExtensions? : Nat → List Char → Option (List RonExtension × List Char)
  | 0, _ => none
  | fuel + 1, cs =>
    match cs with
    | '#' :: _ => do
      let cs ← afterPieces? ["#", "!", "[", "enable", "("] cs
      let (first, cs) ← readExtensionNames? fuel cs
      let cs ← afterPieces? [")", "]"] cs
      let (more, rest) ← readExtensions? fuel cs
      some (first ++ more, rest)
    | cs => some ([], cs)

/-- Whether what stands behind an opening parenthesis are fields; a failure when the text ends. -/
def fieldsAhead? (cs : List Char) : Option Bool :=
  match readIdentifier? cs with
  | none => some false
  | some (_, rest) =>
    match skip rest with
    | some (c :: _) => some (c == ':')
    | _ => none

/-- Words that are values of their own. -/
def wordValues : List (String × Ron) :=
  [("true", bool true), ("false", bool false), ("None", absent),
    ("inf", number (Decimal.infinity false)), ("-inf", number (Decimal.infinity true)),
    ("NaN", number (0 / 0))]

/-- Reads a word that is a value of its own. -/
def readWord? (cs : List Char) : Option (Ron × List Char) :=
  wordValues.findSome? fun (spelling, value) ↦ (afterWord? spelling cs).map (value, ·)

/-- Reads a value that consists of no others. -/
def readScalar? (cs : List Char) : Option (Ron × List Char) :=
  match cs with
  | '\'' :: rest => (readChar? rest).map fun (c, rest) ↦ (char c, rest)
  | '"' :: _ | 'r' :: _ => (readString? cs).map fun (s, rest) ↦ (string s, rest)
  | '.' :: _ => (readFloat? cs).map fun (x, rest) ↦ (number x, rest)
  | c :: _ => if Decimal.isDigit c || c == '+' || c == '-' then readNumber? cs else none
  | [] => none

mutual

/-- Reads a value. -/
def readValue (implicitSome : Bool) : Nat → List Char → Option (Ron × List Char)
  | 0, _ => none
  | fuel + 1, cs =>
    match readWord? cs with
    | some split => some split
    | none =>
      match afterWord? "Some" cs with
      | some rest => do
        match ← skip rest with
        | '(' :: rest =>
          match ← readItems implicitSome ')' fuel rest with
          | ([value], rest) => some (present value, rest)
          | _ => none
        | rest =>
          if implicitSome then
            (readValue implicitSome fuel rest).map fun (value, rest) ↦ (present value, rest)
          else none
      | none =>
        match readIdentifier? cs, readAttached? implicitSome fuel cs with
        | none, some split => some split
        | some (ident, rest), other => do
          match other, ← skip rest with
          | some (value, behind), _ =>
            if behind.length ≤ rest.length then some (value, behind) else some (word ident, rest)
          | none, '(' :: rest => readParenthesized implicitSome (some ident) fuel rest
          | none, rest => some (word ident, rest)
        | none, none =>
          match cs with
          | '(' :: rest => readParenthesized implicitSome none fuel rest
          | '[' :: rest =>
            (readItems implicitSome ']' fuel rest).map fun (items, rest) ↦ (list items, rest)
          | '\x7b' :: rest =>
            (readEntries implicitSome fuel rest).map fun (entries, rest) ↦ (map entries, rest)
          | cs => readScalar? cs

/-- Reads a value that stands directly behind `Some`, where that needs no parentheses. -/
def readAttached? (implicitSome : Bool) : Nat → List Char → Option (Ron × List Char)
  | 0, _ => none
  | fuel + 1, cs =>
    if implicitSome then do
      let (value, rest) ← readValue implicitSome fuel (← after? "Some".toList cs)
      some (attached value, rest)
    else none

/-- Reads fields or values from behind an opening parenthesis. -/
def readParenthesized (implicitSome : Bool) (name : Option String) :
    Nat → List Char → Option (Ron × List Char)
  | 0, _ => none
  | fuel + 1, cs => do
    let cs ← skip cs
    if ← fieldsAhead? cs then
      let (fields, rest) ← readFields implicitSome fuel cs
      some (record name fields, rest)
    else
      let (items, rest) ← readItems implicitSome ')' fuel cs
      some (tuple name items, rest)

/-- Reads values between commas up to behind a closing bracket. -/
def readItems (implicitSome : Bool) (closing : Char) :
    Nat → List Char → Option (List Ron × List Char)
  | 0, _ => none
  | fuel + 1, cs => do
    match ← skip cs with
    | [] => none
    | c :: cs =>
      if c = closing then some ([], cs)
      else
        let (value, cs) ← readValue implicitSome fuel (c :: cs)
        match ← skip cs with
        | ',' :: cs =>
          let (values, rest) ← readItems implicitSome closing fuel cs
          some (value :: values, rest)
        | c :: cs => if c = closing then some ([value], cs) else none
        | [] => none

/-- Reads fields between commas up to behind a closing parenthesis. -/
def readFields (implicitSome : Bool) :
    Nat → List Char → Option (List (String × Ron) × List Char)
  | 0, _ => none
  | fuel + 1, cs => do
    match ← skip cs with
    | ')' :: cs => some ([], cs)
    | cs =>
      let (key, cs) ← readIdentifier? cs
      let ':' :: cs ← skip cs | none
      let (value, cs) ← readValue implicitSome fuel (← skip cs)
      match ← skip cs with
      | ',' :: cs =>
        let (fields, rest) ← readFields implicitSome fuel cs
        some ((key, value) :: fields, rest)
      | ')' :: cs => some ([(key, value)], cs)
      | _ => none

/-- Reads keys with their values between commas up to behind a closing brace. -/
def readEntries (implicitSome : Bool) :
    Nat → List Char → Option (List (Ron × Ron) × List Char)
  | 0, _ => none
  | fuel + 1, cs => do
    match ← skip cs with
    | '\x7d' :: cs => some ([], cs)
    | cs =>
      let (key, cs) ← readValue implicitSome fuel cs
      let ':' :: cs ← skip cs | none
      let (value, cs) ← readValue implicitSome fuel (← skip cs)
      match ← skip cs with
      | ',' :: cs =>
        let (entries, rest) ← readEntries implicitSome fuel cs
        some ((key, value) :: entries, rest)
      | '\x7d' :: cs => some ([(key, value)], cs)
      | _ => none

end

end Ron

/-- Reads a text that is one RON value. -/
def RonText.ofText? (s : String) : Option RonText := do
  let fuel := 3 * s.length + 3
  let (extensions, cs) ← Ron.readExtensions? fuel (← Ron.skip s.toList)
  let implicitSome := extensions.contains .implicitSome
  let (value, rest) ← Ron.readValue implicitSome fuel cs
  if (← Ron.skip rest).isEmpty ∧ value.nesting ≤ Ron.maxNesting then some ⟨implicitSome, value⟩
  else none

end Teletype
