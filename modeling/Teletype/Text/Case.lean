import Teletype.Text.CaseShift
import Teletype.Text.Property
/-!
# Letter case

Lowercasing a text follows the full mapping: a dotted capital I leaves its dot behind, and a capital
sigma at the end of a word becomes the final form. Folding is the one-to-one mapping that patterns
use to ignore case; characters with the same image under it form a family.
-/

namespace Teletype.Text

/-- The image of a character under the first of some shifts that moves it. -/
private def shiftOf? (shifts : List CaseShift) (c : Char) : Option Char :=
  (shifts.findSome? fun s ↦ s.image? c.toNat).map Char.ofNat

/-- The lowercase form of a character that does not depend on its neighbours. -/
def lowerChar (c : Char) : List Char :=
  if c.toNat < 0x80 then [c.toLower]
  else if c.toNat = 0x130 then ['i', Char.ofNat 0x307]
  else [(shiftOf? lowerShifts c).getD c]

/-- Whether the first character that is not skipped has case. -/
def reachesCased (cs : List Char) : Bool :=
  match cs.dropWhile isCaseIgnorable with
  | c :: _ => isCased c
  | [] => false

/-- Lowercase characters, given those already passed in reverse. -/
def lowerFrom : List Char → List Char → List Char
  | _, [] => []
  | passed, c :: cs =>
    (if c.toNat = 0x3a3 then
      if reachesCased passed && !reachesCased cs then [Char.ofNat 0x3c2] else [Char.ofNat 0x3c3]
    else lowerChar c) ++ lowerFrom (c :: passed) cs

/-- The lowercase form of a text. -/
def lowercase (s : String) : String := String.ofList (lowerFrom [] s.toList)

/-- The representative of a character's family. -/
def foldChar (c : Char) : Char := (shiftOf? foldShifts c).getD c

/-- The code points of the characters that differ from a character in case only, itself included. -/
def caseFamily (c : Char) : List Nat :=
  let n := (foldChar c).toNat
  n :: foldShifts.filterMap fun s ↦ s.source? n

/-- Every code point that folding moves, with its image. -/
def casePairs : List (Nat × Nat) := foldShifts.flatMap CaseShift.pairs

/-- The small form of a capital Latin letter. -/
def asciiLower (c : Char) : Char := if 'A' ≤ c ∧ c ≤ 'Z' then Char.ofNat (c.toNat + 32) else c

end Teletype.Text
