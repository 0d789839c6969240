import Teletype.Layout.Frame
import Teletype.Layout.Placeholder
/-!
# Rendering text

From the text of an item to laid-out lines: placeholders are filled, a big font draws the result if
the host has it, and the lines are framed.
-/

namespace Teletype.Layout

/-- Draws a text in a named font, if the host has the font. -/
abbrev FontRenderer := String → String → Option String

/-- What laying out reads besides the text. -/
structure Setting where
  store : Store
  interpolation : Interpolation
  fonts : Option FontRenderer

/-- A text drawn in the big font of its options, or as it is. -/
def drawn (setting : Setting) (o : TextOptions) (text : String) : String :=
  match o.bigFont, setting.fonts with
  | some font, some render => (render text font).getD text
  | _, _ => text

/-- Fills, draws and frames a text. -/
def render (setting : Setting) (columns : Nat) (o : TextOptions) (text : String) :
    Except FormatError (List Char) := do
  let filled ← interpolate setting.store setting.interpolation text
  return format columns o (drawn setting o filled).toList

end Teletype.Layout
