import Teletype.Text.Blank
/-!
# Styled runs

Laid-out text may carry runs of the form `{class:text}`, which do not nest. Braces that do not form
such a run are ordinary characters.
-/

namespace Teletype.Markup

/-- A run of text with or without a class. -/
inductive Segment where
  | plain (text : List Char)
  | styled (className : String) (text : List Char)
  deriving DecidableEq, Repr

namespace Segment

/-- The characters of a segment that are shown. -/
def chars : Segment → List Char
  | plain text | styled _ text => text

/-- Applies a function to the characters that are shown. -/
def mapChars (f : Char → Char) : Segment → Segment
  | plain text => plain (text.map f)
  | styled className text => styled className (text.map f)

@[simp] theorem chars_mapChars (f : Char → Char) (segment : Segment) :
    (segment.mapChars f).chars = segment.chars.map f := by
  cases segment <;> rfl

/-- A segment as it is written. -/
def written : Segment → List Char
  | plain text => text
  | styled className text => '\x7b' :: className.toList ++ ':' :: text ++ ['\x7d']

end Segment

/-- Whether a class name could end the attribute or the tag it is written in. -/
def isUnsafeInClass (c : Char) : Bool := c == '"' || c == '\'' || c == '<' || c == '>'

/-- Whether a trimmed class name may style a run. -/
def isClassName (cs : List Char) : Bool := !cs.isEmpty && !cs.any isUnsafeInClass

/-- The styled run that the characters between two braces form, if they do. -/
def styledRun? (inside : List Char) : Option Segment := do
  let (name, text) ← Text.splitAtFirst ':' inside
  let name := Text.trimChars name
  if isClassName name then some (.styled (String.ofList name) text) else none

/-- The plain segment of some characters; no characters give no segment. -/
def plainRun (cs : List Char) : List Segment := if cs.isEmpty then [] else [.plain cs]

/-- The segments of a text, given the plain characters just before it. -/
def segmentsFrom (before cs : List Char) : List Segment :=
  match _hopen : Text.splitAtFirst '\x7b' cs with
  | none => plainRun (before ++ cs)
  | some (lead, afterOpen) =>
    match _hclose : Text.splitAtFirst '\x7d' afterOpen with
    | none => plainRun (before ++ cs)
    | some (inside, rest) =>
      match styledRun? inside with
      | some run => plainRun (before ++ lead) ++ run :: segmentsFrom [] rest
      | none => segmentsFrom (before ++ lead ++ '\x7b' :: inside ++ ['\x7d']) rest
termination_by cs.length
decreasing_by
  all_goals
    have := Text.length_of_splitAtFirst _hopen
    have := Text.length_of_splitAtFirst _hclose
    omega

/-- The segments of a text. -/
def segments (cs : List Char) : List Segment := segmentsFrom [] cs

end Teletype.Markup
