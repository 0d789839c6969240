import Teletype.Store.Basic
/-!
# Placeholders

A text may name variables as `{{name}}`, with blanks inside the braces, and `\` before two opening
braces keeps them. A text is read as pieces from left to right; values that are put in
are never read again.
-/

namespace Teletype.Layout

/-- A piece of a text with placeholders. -/
inductive Piece where
  | literal (c : Char)
  /-- Two opening braces that were kept by a backslash. -/
  | braces
  | placeholder (name : List Char)
  deriving DecidableEq, Repr

/-- Whether a character may begin a name. -/
def isNameStart (c : Char) : Bool :=
  decide ('a' ≤ c ∧ c ≤ 'z') || decide ('A' ≤ c ∧ c ≤ 'Z') || c == '_'

/-- Whether a character may continue a name. -/
def isNameRest (c : Char) : Bool :=
  isNameStart c || Decimal.isDigit c || c == '.' || c == '-'

/-- The name and the length of a placeholder whose opening braces have been passed. -/
def placeholderBody? (cs : List Char) : Option (List Char × Nat) :=
  let inner := cs.dropWhile Text.isBlank
  match inner with
  | [] => none
  | c :: _ =>
    if isNameStart c then
      let name := inner.takeWhile isNameRest
      match (inner.drop name.length).dropWhile Text.isBlank with
      | '\x7d' :: '\x7d' :: rest => some (name, cs.length - rest.length)
      | _ => none
    else none

/-- The piece at the head of a text and the characters it takes beyond the first. -/
def headPiece (c : Char) (cs : List Char) : Piece × Nat :=
  match c, cs with
  | '\\', '\x7b' :: '\x7b' :: _ => (.braces, 2)
  | '\x7b', '\x7b' :: rest =>
    match placeholderBody? rest with
    | some (name, length) => (.placeholder name, 1 + length)
    | none => (.literal c, 0)
  | _, _ => (.literal c, 0)

/-- The pieces of a text after skipping a number of characters. -/
def piecesFrom : Nat → List Char → List Piece
  | _, [] => []
  | skip + 1, _ :: cs => piecesFrom skip cs
  | 0, c :: cs => (headPiece c cs).1 :: piecesFrom (headPiece c cs).2 cs

/-- The pieces of a text. -/
def pieces (cs : List Char) : List Piece := piecesFrom 0 cs

/-- The name in a placeholder. -/
def Piece.name? : Piece → Option String
  | placeholder name => some (String.ofList name)
  | _ => none

/-- The names that a text mentions in placeholders, in order. -/
def placeholders (s : String) : List String := (pieces s.toList).filterMap Piece.name?

/-- What stands for a variable that is unset. -/
inductive MissingPolicy where
  /-- The placeholder, without blanks. -/
  | leave
  | empty
  | fail
  | resolve (f : String → String)

/-- How placeholders are filled. -/
structure Interpolation where
  missing : MissingPolicy := .leave
  /-- Turns a value and the name of its variable into text; without it the display text is used. -/
  stringify : Option (Value → String → String) := none

/-- Why a text cannot be laid out. -/
inductive FormatError where
  | missingVariable (name : String)
  deriving DecidableEq, Repr

/-- What is said about a text that cannot be laid out. -/
def FormatError.message : FormatError → String
  | missingVariable name => "missing variable: " ++ name

/-- The text of a value in a placeholder. -/
def Interpolation.valueText (o : Interpolation) (name : String) (value : Value) : String :=
  match o.stringify with
  | some f => f value name
  | none => value.display

/-- The text of an unset variable in a placeholder. -/
def MissingPolicy.text (p : MissingPolicy) (name : String) : Except FormatError String :=
  match p with
  | leave => .ok ("\x7b\x7b" ++ name ++ "\x7d\x7d")
  | empty => .ok ""
  | fail => .error (.missingVariable name)
  | resolve f => .ok (f name)

/-- The text of a piece. -/
def Piece.text (store : Store) (o : Interpolation) : Piece → Except FormatError (List Char)
  | literal c => .ok [c]
  | braces => .ok ['\x7b', '\x7b']
  | placeholder name =>
    let name := String.ofList name
    match store.get? name with
    | some value => .ok (o.valueText name value).toList
    | none => (o.missing.text name).map String.toList

/-- The text of several pieces; the first that fails decides. -/
def piecesText (store : Store) (o : Interpolation) : List Piece → Except FormatError (List Char)
  | [] => .ok []
  | piece :: rest => do
    let first ← piece.text store o
    let more ← piecesText store o rest
    return first ++ more

/-- Fills the placeholders of a text. -/
def interpolate (store : Store) (o : Interpolation) (s : String) : Except FormatError String :=
  (piecesText store o (pieces s.toList)).map String.ofList

end Teletype.Layout
