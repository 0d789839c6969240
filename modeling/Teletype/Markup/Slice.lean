import Teletype.Content.Basic
import Teletype.Markup.Escape
import Teletype.Markup.Segment
/-!
# Slicing revealed text

A text is taken apart once; then every count of revealed characters splits it into the markup of
what is revealed, the glyph under the cursor, and the markup of what is still hidden.
-/

namespace Teletype.Markup

/-- The glyph of the cursor behind a text that is fully revealed. -/
def defaultCursor : Char := '.'

/-- The parts of a text at one moment of its reveal. -/
structure Slice where
  revealed : List Char
  cursor : Char
  hidden : List Char
  deriving DecidableEq, Repr

/-- A text taken apart for slicing. -/
structure SlicedText where
  segments : List Segment
  preserveSpacing : Bool

/-- A character of a password: line feeds stay, all else is hidden. -/
def maskChar (c : Char) : Char := if c = '\n' then c else '*'

namespace SlicedText

/-- Takes a laid-out text apart. -/
def of (formatted : List Char) (preserveSpacing isPassword : Bool) : SlicedText where
  segments :=
    if isPassword then (Markup.segments formatted).map (Segment.mapChars maskChar)
    else Markup.segments formatted
  preserveSpacing

/-- Takes a laid-out text apart as its options say. -/
def ofOptions (formatted : List Char) (o : TextOptions) : SlicedText :=
  of formatted o.keepsSpacing o.isPassword

/-- The characters that are shown. -/
def visible (t : SlicedText) : List Char := t.segments.flatMap Segment.chars

/-- The number of characters that are shown. -/
def length (t : SlicedText) : Nat := t.visible.length

/-- The markup of a segment of which some characters are shown. A run of none has no markup. -/
def segmentMarkup (preserveSpacing : Bool) (shown : List Char) : Segment → List Char
  | .plain _ => escape preserveSpacing shown
  | .styled className _ =>
    if shown.isEmpty then []
    else
      "<span class=\"".toList ++ escapeClass className.toList ++ "\">".toList ++
        escape preserveSpacing shown ++ "</span>".toList

/-- The markup of the first characters of several segments. -/
def revealedMarkup (preserveSpacing : Bool) : Nat → List Segment → List Char
  | _, [] => []
  | count, segment :: rest =>
    let shown := segment.chars.take count
    segmentMarkup preserveSpacing shown segment ++
      revealedMarkup preserveSpacing (count - shown.length) rest

/-- Splits a text behind a number of characters, or behind all of them. -/
def slice (t : SlicedText) (count : Option Nat) (fallback : Char) : Slice :=
  let upto := min (count.getD t.length) t.length
  { revealed := revealedMarkup t.preserveSpacing upto t.segments
    cursor := t.visible.getD upto fallback
    hidden := escape t.preserveSpacing (t.visible.drop (upto + 1)) }

end SlicedText

end Teletype.Markup
