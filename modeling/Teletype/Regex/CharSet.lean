import Teletype.Text.Case
/-!
# Sets of characters

A set of characters is kept as the ranges of code points in it. The operations on sets go over the
ranges and never over single characters, so that large sets stay cheap.
-/

namespace Teletype

/-- The code points from a first to a last one. -/
structure CodeRange where
  first : Nat
  last : Nat
  deriving DecidableEq, Repr

/-- Whether a code point is in a range. -/
def CodeRange.contains (r : CodeRange) (n : Nat) : Bool :=
  decide (r.first ≤ n) && decide (n ≤ r.last)

/-- A set of characters, as ranges in ascending order with gaps between them. -/
structure CharSet where
  ranges : List CodeRange
  deriving DecidableEq, Repr

namespace CharSet

/-- Whether a code point is in a set. -/
def hasCode (s : CharSet) (n : Nat) : Bool := s.ranges.any fun r ↦ r.contains n

/-- Whether a character is in a set. -/
def contains (s : CharSet) (c : Char) : Bool := s.hasCode c.toNat

/-- Joins ranges that meet or overlap, given in ascending order, from a first one on. -/
def joinFrom (r : CodeRange) : List CodeRange → List CodeRange
  | [] => [r]
  | next :: rest =>
    if next.first ≤ r.last + 1 then joinFrom ⟨r.first, max r.last next.last⟩ rest
    else r :: joinFrom next rest

/-- The characters in one of several ranges. -/
def ofRanges (ranges : List CodeRange) : CharSet :=
  match ranges.mergeSort fun a b ↦ decide (a.first ≤ b.first) with
  | [] => ⟨[]⟩
  | r :: rest => ⟨joinFrom r rest⟩

/-- The characters with given code points. -/
def ofCodes (codes : List Nat) : CharSet := ofRanges (codes.map fun n ↦ ⟨n, n⟩)

/-- A single character. -/
def only (c : Char) : CharSet := ⟨[⟨c.toNat, c.toNat⟩]⟩

/-- The characters from a first to a last one. -/
def range (first last : Char) : CharSet := ⟨[⟨first.toNat, last.toNat⟩]⟩

/-- The ranges that a span of a table consists of. -/
def rangesOfSpan (s : Text.Span) : List CodeRange :=
  if s.stride ≤ 1 then [⟨s.first, s.last⟩]
  else
    (List.range ((s.last - s.first) / s.stride + 1)).map fun i ↦
      ⟨s.first + i * s.stride, s.first + i * s.stride⟩

/-- The characters in the spans of a table. -/
def ofSpans (spans : List Text.Span) : CharSet := ofRanges (spans.flatMap rangesOfSpan)

/-- The ranges between given ones, from a code point on. -/
def gapsFrom (n : Nat) : List CodeRange → List CodeRange
  | [] => if n ≤ 0x10ffff then [⟨n, 0x10ffff⟩] else []
  | r :: rest =>
    if n < r.first then ⟨n, r.first - 1⟩ :: gapsFrom (r.last + 1) rest
    else gapsFrom (r.last + 1) rest

/-- The characters that are not in a set. -/
def complement (s : CharSet) : CharSet := ⟨gapsFrom 0 s.ranges⟩

/-- The characters in one of several sets. -/
def union (sets : List CharSet) : CharSet := ofRanges (sets.flatMap ranges)

/-- The characters in both of two sets. -/
def intersection (s t : CharSet) : CharSet := complement (union [complement s, complement t])

/-- The characters of one set that are not in another. -/
def difference (s t : CharSet) : CharSet := complement (union [complement s, t])

/-- The characters in one of two sets only. -/
def symmetricDifference (s t : CharSet) : CharSet := union [difference s t, difference t s]

/-- The characters that differ from one of a set in case only. -/
def folded (s : CharSet) : CharSet :=
  let images := ofCodes (Text.casePairs.filterMap fun (n, image) ↦
    if s.hasCode n || s.hasCode image then some image else none)
  let sources := Text.casePairs.filterMap fun (n, image) ↦
    if images.hasCode image then some n else none
  union [s, images, ofCodes sources]

/-- The characters of a set between two given ones, moved up or down. -/
private def moved (s : CharSet) (first last : Char) (move : Nat → Nat) : CharSet :=
  ⟨(intersection s (range first last)).ranges.map fun r ↦ ⟨move r.first, move r.last⟩⟩

/-- The characters that differ from one of a set only in the case of a Latin letter. -/
def asciiFolded (s : CharSet) : CharSet :=
  union [s, moved s 'a' 'z' (· - 32), moved s 'A' 'Z' (· + 32)]

end CharSet

end Teletype
