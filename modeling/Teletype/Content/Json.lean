import Teletype.Action.Json
import Teletype.Content.Basic
/-!
# Screen content in JSON

The records that items are made of: text options, toggle states, commands and the actions of links.
-/

namespace Teletype

namespace Align

/-- The word for an alignment. -/
def name : Align → String
  | left => "left"
  | center => "center"
  | right => "right"

/-- The alignment with a given word. -/
def named? : String → Option Align
  | "left" => some left
  | "center" => some center
  | "right" => some right
  | _ => none

end Align

/-- A whole number of 32 bits. -/
def Json.word32? : Json → Option Nat := Json.natBelow? (2 ^ 32)

/-- A whole number of 64 bits. -/
def Json.word64? : Json → Option Nat := Json.natBelow? (2 ^ 64)

namespace TextOptions

/-- Text options as JSON. -/
def toJson (o : TextOptions) : Json :=
  .object [
    ("speed", .ofOption .ofNat o.speed),
    ("isPassword", .bool o.isPassword),
    ("playSound", .ofOption .bool o.playSound),
    ("preserveSpacing", .bool o.preserveSpacing),
    ("bigFont", .ofOption .string o.bigFont),
    ("fillWidth", .bool o.fillWidth),
    ("align", .string o.align.name),
    ("padChar", .ofOption .string o.padChar),
    ("margin", .ofNat o.margin),
    ("padding", .ofNat o.padding),
    ("borderChar", .ofOption .string o.borderChar),
    ("fillChar", .ofOption .string o.fillChar),
    ("marginChar", .ofOption .string o.marginChar)]

/-- The fields of text options in order. -/
def fields : List Json.Field :=
  ["speed", "isPassword", "playSound", "preserveSpacing", "bigFont", "fillWidth", "align",
    "padChar", "margin", "padding", "borderChar", "fillChar", "marginChar"].map Json.Field.named

/-- The text options that a JSON value writes, given how the alignment is read. -/
def read? (align? : Json → Option Align) (j : Json) : Option TextOptions := do
  let r ← Json.record? fields j
  return {
    speed := ← r.optional "speed" Json.word32?
    isPassword := ← r.defaulted "isPassword" false Json.bool?
    playSound := ← r.optional "playSound" Json.bool?
    preserveSpacing := ← r.defaulted "preserveSpacing" false Json.bool?
    bigFont := ← r.optional "bigFont" Json.string?
    fillWidth := ← r.defaulted "fillWidth" false Json.bool?
    align := ← r.defaulted "align" .left align?
    padChar := ← r.optional "padChar" Json.string?
    margin := ← r.defaulted "margin" 0 Json.word64?
    padding := ← r.defaulted "padding" 0 Json.word64?
    borderChar := ← r.optional "borderChar" Json.string?
    fillChar := ← r.optional "fillChar" Json.string?
    marginChar := ← r.optional "marginChar" Json.string? }

/-- The text options that a JSON value writes. -/
def ofJson? : Json → Option TextOptions := read? (Json.choice? Align.named?)

/-- The text options that a JSON value writes inside a tagged record. -/
def ofEmbedded? : Json → Option TextOptions := read? (Json.embeddedChoice? Align.named?)

end TextOptions

namespace ToggleState

/-- A toggle state as JSON. -/
def toJson (s : ToggleState) : Json :=
  .object ([("text", .string s.text), ("active", .bool s.active)] ++
    (s.delayMs.map fun ms ↦ ("delayMs", .ofNat ms)).toList ++
    (s.delayText.map fun text ↦ ("delayText", .string text)).toList)

/-- The toggle state that a JSON value writes. -/
def ofJson? (j : Json) : Option ToggleState := do
  let r ← Json.record? [.named "text", .named "active", .named "delayMs", .named "delayText"] j
  return {
    text := ← r.required "text" Json.string?
    active := ← r.defaulted "active" false Json.bool?
    delayMs := ← r.optional "delayMs" Json.word64?
    delayText := ← r.optional "delayText" Json.string? }

end ToggleState

namespace CommandPattern

/-- The pattern or patterns of a command as JSON. -/
def toJson : CommandPattern → Json
  | one pattern => .string pattern
  | many patterns => .array (patterns.map .string)

/-- The pattern or patterns that a JSON value writes. -/
def ofJson? : Json → Option CommandPattern
  | .string pattern => some (one pattern)
  | j => (Json.list? Json.string? j).map many

end CommandPattern

namespace Command

/-- A command as JSON. -/
def toJson (c : Command) : Json :=
  .object ([("command", c.pattern.toJson), ("action", c.action.toJson)] ++
    if c.allowRegex then [("allowRegex", .bool true)] else [])

/-- The command that a JSON value writes. -/
def ofJson? (j : Json) : Option Command := do
  let r ← Json.record? [⟨"command", ["pattern"]⟩, .named "action", .named "allowRegex"] j
  return {
    pattern := ← r.required "command" CommandPattern.ofJson?
    action := ← r.required "action" Action.ofJson?
    allowRegex := ← r.defaulted "allowRegex" false Json.bool? }

end Command

namespace LinkActions

/-- The actions of a link as JSON. -/
def toJson (l : LinkActions) : Json :=
  .object ([("base", l.base.toJson)] ++
    (l.shift.map fun action ↦ ("shiftKey", action.toJson)).toList)

/-- The actions of a link that a JSON value writes. -/
def ofJson? (j : Json) : Option LinkActions := do
  let r ← Json.record? [.named "base", .named "shiftKey"] j
  return {
    base := ← r.required "base" Action.ofJson?
    shift := ← r.optional "shiftKey" Action.ofJson? }

end LinkActions

end Teletype
