/-!
# Escaping

What the markup of a screen writes for the characters of a story, so that none of them can be taken
for markup, and what may stand in a class attribute.
-/

namespace Teletype.Markup

/-- A character as markup. Where spacing is preserved a space is written as one that stays. -/
def escapeChar (preserveSpacing : Bool) (c : Char) : List Char :=
  if c = '&' then "&amp;".toList
  else if c = '<' then "&lt;".toList
  else if c = '>' then "&gt;".toList
  else if c = '"' then "&quot;".toList
  else if c = '\'' then "&#39;".toList
  else if c = ' ' ∧ preserveSpacing then "&nbsp;".toList
  else [c]

/-- Characters as markup. -/
def escape (preserveSpacing : Bool) (cs : List Char) : List Char :=
  cs.flatMap (escapeChar preserveSpacing)

/-- Whether a character may stand in a class attribute. -/
def isSafeInClass (c : Char) : Bool := c.isAlphanum || c == '_' || c == '-' || c == ' '

/-- A class name without the characters that may not stand in an attribute. -/
def escapeClass (cs : List Char) : List Char := cs.filter isSafeInClass

end Teletype.Markup
