import Teletype.Decimal.Numeral
import Teletype.Regex.Boundary
import Teletype.Text.Script
/-!
# Named sets of characters

The sets that a pattern can name: the classes in double brackets, the letters behind a backslash,
and behind `\p` properties, categories and scripts, alone or as a property with a value.
-/

namespace Teletype.CharSet

/-- The characters in one of several ranges. -/
def between (ranges : List (Char × Char)) : CharSet :=
  ofRanges (ranges.map fun (first, last) ↦ ⟨first.toNat, last.toNat⟩)

/-- Decimal digits of plain text. -/
def asciiDigit : CharSet := range '0' '9'

/-- Latin letters. -/
def asciiLetter : CharSet := between [('A', 'Z'), ('a', 'z')]

/-- Latin letters and digits. -/
def asciiAlphanumeric : CharSet := union [asciiLetter, asciiDigit]

/-- The blanks of plain text. -/
def asciiSpace : CharSet := between [('\t', '\r'), (' ', ' ')]

/-- The characters of plain words. -/
def asciiWord : CharSet := union [asciiAlphanumeric, only '_']

/-- The class of a name in double brackets. -/
def bracketClass? : String → Option CharSet
  | "alnum" => some asciiAlphanumeric
  | "alpha" => some asciiLetter
  | "ascii" => some (range '\x00' '\x7f')
  | "blank" => some (between [('\t', '\t'), (' ', ' ')])
  | "cntrl" => some (between [('\x00', '\x1f'), ('\x7f', '\x7f')])
  | "digit" => some asciiDigit
  | "graph" => some (range '!' '~')
  | "lower" => some (range 'a' 'z')
  | "print" => some (range ' ' '~')
  | "punct" => some (difference (range '!' '~') asciiAlphanumeric)
  | "space" => some asciiSpace
  | "upper" => some (range 'A' 'Z')
  | "word" => some asciiWord
  | "xdigit" => some (between [('0', '9'), ('A', 'F'), ('a', 'f')])
  | _ => none

/-- The class of a letter behind a backslash, over all characters or the plain ones only. -/
def letterClass? (unicode : Bool) : Char → Option CharSet
  | 'd' => some (if unicode then ofCategory .decimalNumber else asciiDigit)
  | 's' => some (if unicode then blank else asciiSpace)
  | 'w' => some (if unicode then word else asciiWord)
  | _ => none

/-- A name without case, blanks, hyphens and low lines, and without a leading `is`. -/
def normalName (cs : List Char) : String :=
  let kept (cs : List Char) : List Char :=
    (cs.filter fun c ↦ c != ' ' && c != '_' && c != '-' && decide (c.toNat < 0x80)).map
      Text.asciiLower
  match cs with
  | a :: b :: rest =>
    if Text.asciiLower a = 'i' ∧ Text.asciiLower b = 's' then
      let name := kept rest
      if name = ['c'] then "isc" else String.ofList name
    else String.ofList (kept cs)
  | cs => String.ofList (kept cs)

/-- The characters of the script with a name. -/
def script? (name : String) : Option CharSet :=
  (Text.Script.named? name).map fun script ↦ ofSpans script.spans

/-- The characters that were there in the edition of a number, which may be written with a `v` in
place of its point. -/
def edition? (number : String) : Option CharSet :=
  let wanted (e : Text.Edition) : Bool :=
    number == e.number || number.toList == 'v' :: e.number.toList.filter (· ≠ '.')
  (Text.Edition.upTo? wanted Text.Edition.earlier).map fun editions ↦
    ofSpans (editions.flatMap Text.Edition.added)

/-- The set of a property, category or script of a name. -/
def named? (name : String) : Option CharSet :=
  ((Property.named? name).map Property.set).orElse fun _ ↦
    (category? name).orElse fun _ ↦ script? name

/-- The characters of a class for boundaries. -/
private def boundary? (classes : List BoundaryClass) (value : String) : Option CharSet :=
  (BoundaryClass.named? classes value).map BoundaryClass.set

/-- The set of the characters for which a property has a value. -/
def valued? (property value : String) : Option CharSet :=
  match property with
  | "generalcategory" | "gc" => category? value
  | "script" | "sc" => script? value
  | "scriptextensions" | "scx" =>
    (Text.Script.named? value).map fun script ↦ ofSpans script.extended
  | "age" => edition? value
  | "graphemeclusterbreak" | "gcb" => boundary? BoundaryClass.ofCharacters value
  | "wordbreak" | "wb" => boundary? BoundaryClass.ofWords value
  | "sentencebreak" | "sb" => boundary? BoundaryClass.ofSentences value
  | _ => none

end Teletype.CharSet
