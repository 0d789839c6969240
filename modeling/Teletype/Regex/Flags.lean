import Teletype.Regex.Basic
import Teletype.Regex.Named
/-!
# Flags of patterns

What a piece of a pattern means depends on the flags in force where it is read. They decide which
blanks are passed over, and how a set of characters treats letter case.
-/

namespace Teletype.Regex

/-- Why a text is not a pattern. -/
inductive PatternError where
  | unclosedGroup
  | unopenedGroup
  | badGroup
  | badGroupName
  | badFlags
  | nothingToRepeat
  | badCount
  | unclosedClass
  | badClass
  | unknownClass
  | badEscape
  | notUnicode
  | tooDeep
  deriving DecidableEq, Repr

/-- What comes of reading a part of a pattern. A reader that takes a piece off the front of a text
gives the rest of the text with it. -/
abbrev Reading := Except PatternError

/-- The flags in force at a place of a pattern. -/
structure Flags where
  ignoreCase : Bool := false
  multiLine : Bool := false
  dotAll : Bool := false
  swapGreed : Bool := false
  unicode : Bool := true
  carriageReturns : Bool := false
  extended : Bool := false
  deriving DecidableEq, Repr

/-- Sets the flag of a letter. -/
def Flags.set? (f : Flags) (letter : Char) (value : Bool) : Option Flags :=
  match letter with
  | 'i' => some { f with ignoreCase := value }
  | 'm' => some { f with multiLine := value }
  | 's' => some { f with dotAll := value }
  | 'U' => some { f with swapGreed := value }
  | 'u' => some { f with unicode := value }
  | 'R' => some { f with carriageReturns := value }
  | 'x' => some { f with extended := value }
  | _ => none

/-- Passes over blanks, and over comments up to the end of their line. -/
def skipFrom : Bool → List Char → List Char
  | _, [] => []
  | true, c :: cs => skipFrom (c ≠ '\n') cs
  | false, c :: cs =>
    if Text.isBlank c then skipFrom false cs
    else if c = '#' then skipFrom true cs
    else c :: cs

/-- Passes over what the flags allow between the parts of a pattern. -/
def Flags.skip (f : Flags) (cs : List Char) : List Char :=
  if f.extended then skipFrom false cs else cs

/-- A set with the characters that the flags make equal to its own. -/
def Flags.fold (f : Flags) (s : CharSet) : CharSet :=
  if !f.ignoreCase then s else if f.unicode then s.folded else s.asciiFolded

/-- Whether a set holds no more than plain characters. Above them a set without Unicode consists of
bytes, which a text cannot be cut into. -/
def isPlain (s : CharSet) : Bool := s.ranges.all fun r ↦ decide (r.last < 0x80)

/-- Folds a set and then takes its complement if it is negated. -/
def Flags.finish (f : Flags) (negated : Bool) (s : CharSet) : Reading CharSet :=
  let s := f.fold s
  let s := if negated then s.complement else s
  if f.unicode || isPlain s then .ok s else .error .notUnicode

/-- The set that a single character matches. -/
def Flags.literal (f : Flags) (c : Char) : CharSet :=
  if f.ignoreCase && f.unicode then .ofCodes (Text.caseFamily c) else f.fold (.only c)

/-- The characters of words under the flags. -/
def Flags.wordSet (f : Flags) : CharSet :=
  if f.unicode then CharSet.word else CharSet.asciiWord

end Teletype.Regex
