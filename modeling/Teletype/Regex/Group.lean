import Teletype.Regex.Class
/-!
# Groups and counts of patterns

The beginning of a group, which may name it or set flags, and the counts of a repetition.
-/

namespace Teletype.Regex

/-- Whether a character may stand in the name of a group. -/
def isGroupNameChar (first : Bool) (c : Char) : Bool :=
  c == '_' || Text.isAlphabetic c ||
    (!first && (Text.isNumeric c || c == '.' || c == '[' || c == ']'))

/-- Reads the name of a group up to its closing bracket. -/
def readGroupName : Bool → List Char → Reading (List Char × List Char)
  | _, [] => .error .badGroupName
  | first, c :: cs =>
    if c = '>' then if first then .error .badGroupName else .ok ([], cs)
    else if isGroupNameChar first c then
      (readGroupName false cs).map fun (name, rest) ↦ (c :: name, rest)
    else .error .badGroupName

/-- How a list of flags ends. -/
inductive FlagsEnd where
  /-- The flags are for the rest of the enclosing group. -/
  | group
  /-- The flags are for the group that begins here. -/
  | body

/-- Reads flags behind the question mark, given the letters read so far and whether they are being
cleared. -/
def readFlags (f : Flags) (seen : List Char) (clearing fresh : Bool) :
    List Char → Reading ((Flags × FlagsEnd) × List Char)
  | [] => .error .badFlags
  | ')' :: cs =>
    if fresh then .error .badFlags
    else if seen.isEmpty then .error .nothingToRepeat
    else .ok ((f, .group), cs)
  | ':' :: cs => if fresh then .error .badFlags else .ok ((f, .body), cs)
  | '-' :: cs => if clearing then .error .badFlags else readFlags f ('-' :: seen) true true cs
  | c :: cs =>
    if seen.contains c then .error .badFlags
    else
      match f.set? c (!clearing) with
      | some f => readFlags f (c :: seen) clearing false cs
      | none => .error .badFlags

/-- How a group begins. -/
inductive GroupStart where
  /-- Flags for the rest of the enclosing group. -/
  | flags (f : Flags)
  /-- A group with its flags, and its name if it has one. -/
  | group (f : Flags) (name : Option (List Char))

/-- Reads the beginning of a group behind its bracket. -/
def readGroupStart (f : Flags) (cs : List Char) : Reading (GroupStart × List Char) :=
  match f.skip cs with
  | '?' :: '=' :: _ | '?' :: '!' :: _ | '?' :: '<' :: '=' :: _ | '?' :: '<' :: '!' :: _ =>
    .error .badGroup
  | '?' :: 'P' :: '<' :: rest | '?' :: '<' :: rest =>
    (readGroupName true rest).map fun (name, rest) ↦ (.group f (some name), rest)
  | '?' :: rest =>
    (readFlags f [] false false rest).map fun ((g, ending), rest) ↦
      (match ending with
        | .group => .flags g
        | .body => .group g none, rest)
  | rest => .ok (.group f none, rest)

/-- Reads the digits of a count, with blanks around them. -/
def readCountDigits (f : Flags) : Nat → List Char → List Char × List Char
  | fuel + 1, c :: cs =>
    if Decimal.isDigit c then
      let (digits, rest) := readCountDigits f fuel (f.skip cs)
      (c :: digits, rest)
    else ([], c :: cs)
  | _, cs => ([], cs)

/-- Reads a count of 32 bits; it is absent when there are no digits. -/
def readCount (f : Flags) (cs : List Char) : Reading (Option Nat × List Char) :=
  let (digits, rest) := readCountDigits f (cs.length + 1) (cs.dropWhile Text.isBlank)
  let rest := f.skip (rest.dropWhile Text.isBlank)
  let n := Decimal.digitsValue digits
  if digits.isEmpty then .ok (none, rest)
  else if n < 2 ^ 32 then .ok (some n, rest)
  else .error .badCount

/-- Reads the counts of a repetition behind the opening brace. -/
def readCounts (f : Flags) (cs : List Char) :
    Reading ((Nat × Option Nat) × List Char) := do
  if (f.skip cs).isEmpty then throw .badCount
  let (least, rest) ← readCount f (f.skip cs)
  let some least := least | throw .badCount
  match rest with
  | '\x7d' :: rest => return ((least, some least), rest)
  | ',' :: rest =>
    match f.skip rest with
    | '\x7d' :: rest => return ((least, none), rest)
    | rest =>
      let (most, rest) ← readCount f rest
      let some most := most | throw .badCount
      let '\x7d' :: rest := rest | throw .badCount
      if least ≤ most then return ((least, some most), rest) else throw .badCount
  | _ => throw .badCount

end Teletype.Regex
