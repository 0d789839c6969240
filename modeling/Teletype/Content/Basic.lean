import Teletype.Action.Basic
/-!
# Screen content

The items a screen is made of: texts, pictures, links, toggles, prompts, countdowns and variable
changes, with the options that lay out and reveal their text.
-/

namespace Teletype

/-- Where the text of a line stands. -/
inductive Align where
  | left
  | center
  | right
  deriving DecidableEq, Repr

/-- How the text of an item is laid out and revealed. -/
structure TextOptions where
  /-- Milliseconds between two characters; without it, or when it is zero, all is shown at once. -/
  speed : Option Nat := none
  isPassword : Bool := false
  playSound : Option Bool := none
  preserveSpacing : Bool := false
  bigFont : Option String := none
  fillWidth : Bool := false
  align : Align := .left
  padChar : Option String := none
  margin : Nat := 0
  padding : Nat := 0
  borderChar : Option String := none
  fillChar : Option String := none
  marginChar : Option String := none

namespace TextOptions

/-- The first character of an option, if it has one. -/
def glyph? (text : Option String) : Option Char := text.bind fun s ↦ s.toList.head?

/-- The character of the padding. -/
def pad? (o : TextOptions) : Option Char := glyph? o.padChar

/-- The character of the border. -/
def border? (o : TextOptions) : Option Char := glyph? o.borderChar

/-- The character that fills lines up. -/
def fill? (o : TextOptions) : Option Char := glyph? o.fillChar

/-- The character of the margin. -/
def marginGlyph? (o : TextOptions) : Option Char := glyph? o.marginChar

/-- Whether lines are left as they are. The letters of a big font are pictures made of lines. -/
def keepsSpacing (o : TextOptions) : Bool := o.preserveSpacing || o.bigFont.isSome

end TextOptions

/-- The pattern or the patterns that a command answers to. -/
inductive CommandPattern where
  | one (pattern : String)
  | many (patterns : List String)

/-- A command: what it answers to and what it does. -/
structure Command where
  pattern : CommandPattern
  action : Action
  /-- Whether the patterns are regular expressions instead of words. -/
  allowRegex : Bool

/-- The patterns of a command in order. -/
def Command.patterns (c : Command) : List String :=
  match c.pattern with
  | .one pattern => [pattern]
  | .many patterns => patterns

/-- A command that answers to several words. -/
def Command.words (patterns : List String) (action : Action) : Command :=
  ⟨.many patterns, action, false⟩

/-- A command that answers to a regular expression. -/
def Command.regex (pattern : String) (action : Action) : Command :=
  ⟨.one pattern, action, true⟩

/-- What following a link does, with an alternative for the shift key. -/
structure LinkActions where
  base : Action
  shift : Option Action

/-- The action for a click. -/
def LinkActions.forClick (l : LinkActions) (shift : Bool) : Action :=
  if shift then l.shift.getD l.base else l.base

/-- One of the texts a toggle goes through. -/
structure ToggleState where
  text : String
  active : Bool
  delayMs : Option Nat
  delayText : Option String

/-- A place for input and the commands it understands. -/
structure Prompt where
  prompt : String
  commands : List Command
  allowMetaCommands : Bool
  options : TextOptions

/-- A clock that runs down. -/
structure Countdown where
  prompt : String
  /-- Seconds in all. -/
  duration : Nat
  options : TextOptions

/-- What an item of a screen is. -/
inductive Content where
  | text (text : String) (options : TextOptions)
  | bitmap (src : String) (alt : Option String)
  | link (text : String) (actions : LinkActions) (options : TextOptions)
  | toggle (states : List ToggleState) (options : TextOptions)
  | prompt (p : Prompt)
  | countdown (c : Countdown)
  | mutate (target : String) (mutation : Mutation)

/-- An item of a screen. -/
structure Item where
  id : String
  className : Option String
  /-- Whether the item takes part in the reveal; others are done when the screen starts. -/
  onLoad : Bool
  content : Content

/-- An item that shows a text and has no class. -/
def Item.ofText (id text : String) : Item := ⟨id, none, true, .text text {}⟩

namespace Content

/-- The options of an item that shows text. -/
def options? : Content → Option TextOptions
  | text _ options | link _ _ options | toggle _ options => some options
  | prompt p => some p.options
  | countdown c => some c.options
  | bitmap .. | mutate .. => none

/-- The prompt that an item is, if it is one. -/
def prompt? : Content → Option Prompt
  | prompt p => some p
  | _ => none

/-- Whether an item is a variable change, which shows nothing. -/
def isMutation : Content → Bool
  | mutate .. => true
  | _ => false

/-- The word for a kind of item. -/
def kindName : Content → String
  | text .. => "text"
  | bitmap .. => "bitmap"
  | link .. => "link"
  | toggle .. => "toggle"
  | prompt _ => "prompt"
  | countdown _ => "countdown"
  | mutate .. => "variable"

end Content

end Teletype
