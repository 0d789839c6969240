import Teletype.Content.Basic
import Teletype.Layout.Wrap
/-!
# Framed text

A line of laid-out text is its margin, border and padding on both sides of the aligned text. Widths
count characters. Without frame the layout is wrapping and aligning only.
-/

namespace Teletype.Layout

/-- Aligns a line within a number of columns. The smaller half of the slack of a centred line is on
the left. Blanks are written behind a line only when the fill can be seen or the line is to be
filled. -/
def align (columns : Nat) (alignment : Align) (fill : Char) (fillLine : Bool) (line : List Char) :
    List Char :=
  let slack := columns - line.length
  let behind (n : Nat) : List Char :=
    if fill ≠ ' ' ∨ fillLine then List.replicate n fill else []
  match alignment with
  | .left => line ++ behind slack
  | .center => List.replicate (slack / 2) fill ++ line ++ behind (slack - slack / 2)
  | .right => List.replicate slack fill ++ line

/-- A text repeated up to a number of characters. -/
def repeatTo (count : Nat) (cs : List Char) : List Char :=
  if cs.isEmpty then []
  else (List.range count).map fun i ↦ cs.getD (i % cs.length) ' '

/-- The columns that margin, border and padding take. -/
def chrome (o : TextOptions) : Nat :=
  2 * o.margin + (if o.border?.isSome then 2 else 0) + 2 * o.padding

/-- Whether the frame leaves no column for the text. -/
def isCrowded (columns : Nat) (o : TextOptions) : Bool :=
  decide (columns ≤ chrome o) && (decide (0 < chrome o) || o.fillWidth)

/-- The lines of a text before they are aligned: the text repeated across the width, the lines as
they are, or the text wrapped. -/
def rawLines (columns : Nat) (o : TextOptions) (cs : List Char) : List (List Char) :=
  if o.fillWidth then [repeatTo columns cs]
  else if o.keepsSpacing then Text.linesOf cs
  else wrap columns cs

/-- What stands before the text of a line, from the outside in. -/
def edge (o : TextOptions) : List Char :=
  List.replicate o.margin (o.marginGlyph?.getD ' ') ++ o.border?.toList ++
    List.replicate o.padding (o.pad?.getD ' ')

/-- Aligns a line and puts the frame around it. -/
def framed (inner : Nat) (o : TextOptions) (line : List Char) : List Char :=
  let fill := (o.fill?.or o.pad?).getD ' '
  edge o ++ align inner o.align fill (decide (0 < chrome o)) line ++ (edge o).reverse

/-- Lines with line feeds between them. -/
def joinLines : List (List Char) → List Char
  | [] => []
  | [line] => line
  | line :: lines => line ++ '\n' :: joinLines lines

/-- Lays a text out for a number of columns. When the frame leaves no room it is one blank line. -/
def format (columns : Nat) (o : TextOptions) (cs : List Char) : List Char :=
  if isCrowded columns o then List.replicate columns ' '
  else
    let inner := columns - chrome o
    joinLines ((rawLines inner o cs).map (framed inner o))

end Teletype.Layout
