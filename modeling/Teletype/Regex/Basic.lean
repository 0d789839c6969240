import Teletype.Power
import Teletype.Regex.CharSet
/-!
# Regular expressions

Regular expressions over characters with assertions about the place they stand at. Matching follows
all places at once: a set of places goes in, and the set of places where a match may end comes out.
-/

namespace Teletype

/-- The sides of a word that an assertion is about. -/
inductive WordEdge where
  | boundary
  | inside
  | start
  | stop
  | startHalf
  | stopHalf
  deriving DecidableEq, Repr

/-- A test of the place between two characters. -/
inductive Assertion where
  | textStart
  | textEnd
  | lineStart (carriageReturns : Bool)
  | lineEnd (carriageReturns : Bool)
  /-- An edge of words made of the characters of a set. -/
  | word (isWord : CharSet) (edge : WordEdge)

/-- A regular expression. -/
inductive Regex where
  | empty
  | one (set : CharSet)
  | look (a : Assertion)
  | sequence (first second : Regex)
  | either (first second : Regex)
  /-- From a least number of times up to a most, or without end. -/
  | repeated (body : Regex) (least : Nat) (most : Option Nat)

/-- Whether an edge lies between two characters, told whether each is part of a word. -/
def WordEdge.holds (edge : WordEdge) (before after : Bool) : Bool :=
  match edge with
  | boundary => before != after
  | inside => before == after
  | start => !before && after
  | stop => before && !after
  | startHalf => !before
  | stopHalf => !after

/-- Whether an assertion holds between two characters, either of which may be missing. -/
def Assertion.holds (a : Assertion) (before after : Option Char) : Bool :=
  match a with
  | textStart => before.isNone
  | textEnd => after.isNone
  | lineStart false => before.isNone || before == some '\n'
  | lineStart true =>
    before.isNone || before == some '\n' || (before == some '\r' && after != some '\n')
  | lineEnd false => after.isNone || after == some '\n'
  | lineEnd true =>
    after.isNone || after == some '\r' || (after == some '\n' && before != some '\r')
  | word isWord edge => edge.holds (before.any isWord.contains) (after.any isWord.contains)

namespace Regex

/-- A set of places in a text, one bit each. The place before the first character has the lowest
bit. -/
abbrev Places := Nat

/-- A place in a set or not. -/
def bit (b : Bool) : Nat := if b then 1 else 0

/-- The places before the characters of a set. -/
def hits (set : CharSet) : List Char → Places
  | [] => 0
  | c :: cs => bit (set.contains c) + 2 * hits set cs

/-- The places where an assertion holds, given the character before the text. -/
def spots (a : Assertion) (before : Option Char) : List Char → Places
  | [] => bit (a.holds before none)
  | c :: cs => bit (a.holds before (some c)) + 2 * spots a (some c) cs

/-- Applies a step a number of times, or fewer when it changes nothing any more. -/
def iterate (step : Places → Places) : Nat → Places → Places
  | 0, places => places
  | count + 1, places =>
    let next := step places
    if next = places then places else iterate step count next

/-- The places where a match that starts at one of some places may end. -/
def ends (text : List Char) : Regex → Places → Places
  | empty, places => places
  | one set, places => (places &&& hits set text) <<< 1
  | look a, places => places &&& spots a none text
  | sequence first second, places => second.ends text (first.ends text places)
  | either first second, places => first.ends text places ||| second.ends text places
  | repeated body least most, places =>
    let more (p : Places) : Places := p ||| body.ends text p
    let extra := match most with
      | some most => most - least
      | none => text.length
    iterate more extra (iterate (body.ends text) least places)

/-- Every place of a text. -/
def everywhere (text : List Char) : Places := 2 ^ (text.length + 1) - 1

/-- Whether some part of a text matches. -/
def occursIn (r : Regex) (text : List Char) : Bool := r.ends text (everywhere text) != 0

end Regex

end Teletype
