import Teletype.Text.Split
/-!
# Spans of code points

Sets of characters as lists of spans, each every character or every second one from a first to a
last code point. Long lists are kept as text, one word per span: `41-5A`, `AA`, or `100-136/2` for
every second code point.
-/

namespace Teletype.Text

/-- The code points `first`, `first + stride`, …, up to `last`. -/
structure Span where
  first : Nat
  last : Nat
  stride : Nat := 1
  deriving DecidableEq, Repr

/-- Whether a code point is in the span. -/
def Span.contains (s : Span) (n : Nat) : Bool :=
  decide (s.first ≤ n) && decide (n ≤ s.last) && (n - s.first) % s.stride == 0

/-- Whether a character is in one of the spans. -/
def inSpans (spans : List Span) (c : Char) : Bool := spans.any fun s ↦ s.contains c.toNat

/-- The value of a hexadecimal digit. -/
def hexDigit? (c : Char) : Option Nat :=
  if '0' ≤ c ∧ c ≤ '9' then some (c.toNat - 48)
  else if 'a' ≤ c ∧ c ≤ 'f' then some (c.toNat - 87)
  else if 'A' ≤ c ∧ c ≤ 'F' then some (c.toNat - 55)
  else none

/-- Hexadecimal digits to the end of the list, most significant first. -/
def hexNumber? (cs : List Char) : Option Nat :=
  if cs.isEmpty then none
  else cs.foldlM (fun n c ↦ (hexDigit? c).map (16 * n + ·)) 0

/-- The words of a table, separated by spaces and line ends. -/
def tableWords : List Char → List Char → List (List Char)
  | [], [] => []
  | [], word => [word.reverse]
  | c :: cs, word =>
    if c = ' ' ∨ c = '\n' then
      if word.isEmpty then tableWords cs [] else word.reverse :: tableWords cs []
    else tableWords cs (c :: word)

/-- One word of a table of spans. -/
def Span.ofWord? (word : List Char) : Option Span := do
  let (range, stride) ← match splitAtFirst '/' word with
    | some (range, stride) => do some (range, ← hexNumber? stride)
    | none => some (word, 1)
  match splitAtFirst '-' range with
  | some (first, last) => some ⟨← hexNumber? first, ← hexNumber? last, stride⟩
  | none => do
    let only ← hexNumber? range
    some ⟨only, only, stride⟩

/-- A table of spans written as text. -/
def spansOfText (text : String) : List Span :=
  (tableWords text.toList []).filterMap Span.ofWord?

end Teletype.Text
