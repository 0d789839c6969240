import Teletype.Content.Json
import Teletype.Document.Basic
import Teletype.Json.Reader
/-!
# Reading a document

A document is written with shorthands: an entry of a screen may be a bare text, ids of items may be
left out, and a link may name its target in several ways. Reading puts all of them into one form and
gives every item an id of its own, made of the screen and the place in its list.
-/

namespace Teletype

namespace Metadata

/-- The metadata that a JSON value writes. -/
def ofJson? (j : Json) : Option Metadata := do
  let r ← Json.record? [.named "title", .named "author", .named "comment", .named "version"] j
  return {
    title := ← r.defaulted "title" "" Json.string?
    author := ← r.defaulted "author" "" Json.string?
    comment := ← r.defaulted "comment" "" Json.string?
    version := ← r.defaulted "version" "" Json.string? }

/-- Metadata as JSON. -/
def toJson (m : Metadata) : Json :=
  .object [("title", .string m.title), ("author", .string m.author),
    ("comment", .string m.comment), ("version", .string m.version)]

end Metadata

namespace DocumentConfig

/-- The fields of a document's settings in order. -/
def fields : List Json.Field :=
  ["name", "speed", "footer", "minWidth", "maxWidth", "renderScanlines", "screenFlicker",
    "theme"].map Json.Field.named

/-- The settings that a JSON value writes. -/
def ofJson? (j : Json) : Option DocumentConfig := do
  let r ← Json.record? fields j
  return {
    name := ← r.defaulted "name" "" Json.string?
    speed := ← r.optional "speed" Json.word32?
    footer := ← r.optional "footer" Json.string?
    minWidth := ← r.optional "minWidth" Json.word64?
    maxWidth := ← r.optional "maxWidth" Json.word64?
    renderScanlines := ← r.optional "renderScanlines" Json.bool?
    screenFlicker := ← r.optional "screenFlicker" Json.bool?
    theme := ← r.optional "theme" Json.string? }

/-- Settings as JSON. -/
def toJson (c : DocumentConfig) : Json :=
  .object [
    ("name", .string c.name),
    ("speed", .ofOption .ofNat c.speed),
    ("footer", .ofOption .string c.footer),
    ("minWidth", .ofOption .ofNat c.minWidth),
    ("maxWidth", .ofOption .ofNat c.maxWidth),
    ("renderScanlines", .ofOption .bool c.renderScanlines),
    ("screenFlicker", .ofOption .bool c.screenFlicker),
    ("theme", .ofOption .string c.theme)]

end DocumentConfig

/-- The kind of screen with a given word. -/
def ScreenKind.named? : String → Option ScreenKind
  | "screen" => some screen
  | "static" => some fixed
  | _ => none

/-- The kind of dialog with a given word. -/
def DialogKind.named? : String → Option DialogKind
  | "alert" => some alert
  | "dialog" => some dialog
  | "confirm" => some confirm
  | _ => none

/-- The kind of variable with a given word. -/
def VariableKind.named? : String → Option VariableKind
  | "number" => some number
  | "boolean" => some boolean
  | "string" => some string
  | _ => none

namespace Dialog

/-- The dialog that a JSON value writes. -/
def ofJson? (j : Json) : Option Dialog := do
  let r ← Json.record? [.named "id", .named "type", .named "content"] j
  return {
    id := ← r.required "id" Json.string?
    kind := ← r.defaulted "type" .alert (Json.choice? DialogKind.named?)
    lines := ← r.defaulted "content" [] (Json.list? Json.string?) }

/-- A dialog as JSON. -/
def toJson (d : Dialog) : Json :=
  .object [("id", .string d.id), ("type", .string d.kind.name),
    ("content", .array (d.lines.map .string))]

end Dialog

namespace Declaration

/-- The declaration that a JSON value writes. -/
def ofJson? (j : Json) : Option Declaration := do
  let r ← Json.record? [.named "id", .named "type", .named "default"] j
  return {
    id := ← r.required "id" Json.string?
    kind := ← r.required "type" (Json.choice? VariableKind.named?)
    initial := ← r.required "default" Value.ofJson? }

/-- A declaration as JSON. -/
def toJson (d : Declaration) : Json :=
  .object [("id", .string d.id), ("type", .string d.kind.name), ("default", d.initial.toJson)]

end Declaration

/-- One of several targets of a link. -/
structure LinkTarget where
  target : String
  kind : String
  shiftKey : Bool

namespace LinkTarget

/-- The target that a JSON value writes. -/
def ofJson? (j : Json) : Option LinkTarget := do
  let r ← Json.record? [.named "target", .named "type", .named "shiftKey"] j
  return {
    target := ← r.required "target" Json.string?
    kind := ← r.defaulted "type" "link" Json.string?
    shiftKey := ← r.defaulted "shiftKey" false Json.bool? }

/-- The step that goes to a target. -/
def step (t : LinkTarget) : Step :=
  if t.kind = "dialog" ∨ t.kind = "alert" then .dialog t.target
  else if t.kind = "toggle" then .toggle t.target
  else .link t.target t.shiftKey

end LinkTarget

/-- Where a link leads: to a screen, or to a list of targets. -/
inductive LinkDestination where
  | screen (id : String)
  | targets (targets : List LinkTarget)

namespace LinkDestination

/-- The destination that a JSON value writes. -/
def ofJson? : Json → Option LinkDestination
  | .string id => some (screen id)
  | j => (Json.list? LinkTarget.ofJson? j).map targets

/-- The actions that lead to a destination. Targets for the shift key are a chain of their own. -/
def actions : LinkDestination → LinkActions
  | screen id => ⟨.link id, none⟩
  | targets all =>
    let plain := all.filter fun t ↦ !t.shiftKey
    let shifted := all.filter LinkTarget.shiftKey
    ⟨.chain (plain.map LinkTarget.step),
      if shifted.isEmpty then none else some (.chain (shifted.map LinkTarget.step))⟩

end LinkDestination

/-- An entry of a screen as it is written; an entry without content keeps its place only. -/
structure Entry where
  id : Option String := none
  className : Option String := none
  onLoad : Option Bool := none
  content : Option Content

namespace Entry

/-- A field of an entry. -/
private def named (name : String) : Json.Field := .named name

/-- The fields every entry has besides its own. -/
private def shared (own : List String) (styled : Bool) : List Json.Field :=
  (own ++ ["id"] ++ (if styled then ["className"] else []) ++ ["onLoad"]).map named

/-- The fields of an entry that shows text. -/
private def worded (own : List String) : List Json.Field := shared own true ++ [named "textOpts"]

/-- Finishes an entry with the fields that every entry has. -/
private def finish (r : Json.Record) (styled : Bool) (content : Content) : Option Entry := do
  return {
    id := ← r.nullable "id" Json.string?
    className := ← if styled then r.nullable "className" Json.string? else some none
    onLoad := ← r.nullable "onLoad" Json.bool?
    content }

/-- The text options of an entry. -/
private def options? (r : Json.Record) : Option TextOptions :=
  r.defaulted "textOpts" {} TextOptions.ofEmbedded?

/-- The entry of a kind that a body of fields writes. -/
def ofBody? (tag : Json.Tag) (body : Json) : Option Entry :=
  match tag with
  | .name "void" | .index 0 => do
    let _ ← Json.record? [] body
    return { content := none }
  | .name "text" | .index 1 => do
    let r ← Json.record? (worded ["text"]) body
    finish r true (.text (← r.required "text" Json.string?) (← options? r))
  | .name "bitmap" | .index 2 => do
    let r ← Json.record? (shared ["src", "alt"] true) body
    finish r true (.bitmap (← r.required "src" Json.string?) (← r.nullable "alt" Json.string?))
  | .name "link" | .index 3 => do
    let r ← Json.record? (worded ["text", "target", "actions"]) body
    let text ← r.nullable "text" Json.string?
    let target ← r.nullable "target" LinkDestination.ofJson?
    let actions ← r.nullable "actions" LinkActions.ofJson?
    let led := (target.map LinkDestination.actions).getD ⟨.chain [], none⟩
    finish r true (.link (text.getD "") (actions.getD led) (← options? r))
  | .name "toggle" | .index 4 => do
    let r ← Json.record? (worded ["states"]) body
    finish r true (.toggle (← r.required "states" (Json.list? ToggleState.ofJson?)) (← options? r))
  | .name "prompt" | .index 5 => do
    let r ← Json.record? (worded ["prompt", "commands", "allowMetaCommands"]) body
    let prompt ← r.nullable "prompt" Json.string?
    finish r true (.prompt {
      prompt := prompt.getD ""
      commands := ← r.defaulted "commands" [] (Json.list? Command.ofJson?)
      allowMetaCommands := ← r.defaulted "allowMetaCommands" false Json.bool?
      options := ← options? r })
  | .name "countdown" | .index 6 => do
    let r ← Json.record? (worded ["prompt", "duration"]) body
    finish r true (.countdown {
      prompt := ← r.required "prompt" Json.string?
      duration := ← r.required "duration" Json.word64?
      options := ← options? r })
  | .name "variable" | .index 7 => do
    let r ← Json.record? (shared ["target", "context"] false) body
    finish r false
      (.mutate (← r.required "target" Json.string?) (← r.required "context" Mutation.ofJson?))
  | _ => none

/-- The entry that a JSON value writes. -/
def ofJson? (j : Json) : Option Entry :=
  match j with
  | .string text => some { content := some (.text text {}) }
  | j => do
    let (tag, body) ← (← j.readable?).tagged?
    ofBody? tag body

/-- The item that an entry at a place of a screen stands for. -/
def item? (screen : String) (place : Nat) (e : Entry) : Option Item :=
  e.content.map fun content ↦ {
    id := e.id.getD (screen ++ "-" ++ Decimal.natText place)
    className := e.className
    onLoad := e.onLoad.getD true
    content }

end Entry

/-- A screen as it is written. -/
structure Page where
  id : String
  kind : ScreenKind
  entries : List Entry

namespace Page

/-- The page that a JSON value writes. -/
def ofJson? (j : Json) : Option Page := do
  let r ← Json.record? [.named "id", .named "type", .named "content"] j
  return {
    id := ← r.required "id" Json.string?
    kind := ← r.defaulted "type" .screen (Json.choice? ScreenKind.named?)
    entries := ← r.defaulted "content" [] (Json.list? Entry.ofJson?) }

/-- The screen of a page. Entries without content leave a gap in the numbering. -/
def screen (p : Page) : Screen where
  id := p.id
  kind := p.kind
  items := p.entries.zipIdx.filterMap fun (entry, place) ↦ entry.item? p.id place

end Page

/-- The parts of a document as they are written. -/
structure Manuscript where
  metadata : Metadata
  config : DocumentConfig
  pages : List Page
  dialogs : List Dialog
  declarations : List Declaration

namespace Manuscript

/-- The parts of a document that a JSON value writes. -/
def ofJson? (j : Json) : Option Manuscript := do
  let r ← Json.record?
    [.named "metadata", .named "config", .named "screens", .named "dialogs", .named "variables"] j
  return {
    metadata := ← r.defaulted "metadata" {} Metadata.ofJson?
    config := ← r.defaulted "config" {} DocumentConfig.ofJson?
    pages := ← r.defaulted "screens" [] (Json.list? Page.ofJson?)
    dialogs := ← r.defaulted "dialogs" [] (Json.list? Dialog.ofJson?)
    declarations := ← r.defaulted "variables" [] (Json.list? Declaration.ofJson?) }

/-- The document of its written parts. -/
def document (m : Manuscript) : Except DocumentError Document :=
  Document.ofParts m.metadata m.config (m.pages.map Page.screen) m.dialogs m.declarations

end Manuscript

/-- Why a text is not a document. -/
inductive DocumentReadError where
  | json
  | parts (e : DocumentError)
  deriving DecidableEq, Repr

/-- The document that a JSON text writes. -/
def Document.ofText (s : String) : Except DocumentReadError Document :=
  match Json.ofText? s >>= Manuscript.ofJson? with
  | none => .error .json
  | some m => m.document.mapError .parts

end Teletype
