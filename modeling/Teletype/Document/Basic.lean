import Teletype.Content.Basic
/-!
# Documents

A document is a list of screens and dialogs with the variables they use. The ids of screens, and
those of dialogs, are all different, and two tables find a screen or a dialog by its id.
-/

namespace Teletype

/-- Who wrote a document and what it is. -/
structure Metadata where
  title : String := ""
  author : String := ""
  comment : String := ""
  version : String := ""

/-- How a document wants to be presented. -/
structure DocumentConfig where
  name : String := ""
  speed : Option Nat := none
  footer : Option String := none
  minWidth : Option Nat := none
  maxWidth : Option Nat := none
  renderScanlines : Option Bool := none
  screenFlicker : Option Bool := none
  theme : Option String := none

namespace DocumentConfig

/-- A width within the limits of the document; where the limits cross, the lower one counts. -/
def clampColumns (c : DocumentConfig) (columns : Nat) : Nat :=
  let columns := match c.maxWidth with
    | some most => min columns most
    | none => columns
  match c.minWidth with
  | some least => max columns least
  | none => columns

/-- Whether scan lines are drawn; they are unless the document says otherwise. -/
def showsScanlines (c : DocumentConfig) : Bool := c.renderScanlines.getD true

/-- Whether the screen flickers; it does unless the document says otherwise. -/
def flickers (c : DocumentConfig) : Bool := c.screenFlicker.getD true

/-- The colour theme. -/
def themeName (c : DocumentConfig) : String := c.theme.getD "amber"

end DocumentConfig

/-- The kinds of screens. -/
inductive ScreenKind where
  | screen
  | fixed
  deriving DecidableEq, Repr

/-- A screen and its items. -/
structure Screen where
  id : String
  kind : ScreenKind
  items : List Item

/-- The kinds of dialogs. -/
inductive DialogKind where
  | alert
  | dialog
  | confirm
  deriving DecidableEq, Repr

/-- A dialog and its lines. -/
structure Dialog where
  id : String
  kind : DialogKind
  lines : List String

/-- The kinds of declared variables. -/
inductive VariableKind where
  | number
  | boolean
  | string
  deriving DecidableEq, Repr

/-- A declared variable and the value it starts with. -/
structure Declaration where
  id : String
  kind : VariableKind
  initial : Value

/-- The word for a kind of screen. -/
def ScreenKind.name : ScreenKind → String
  | screen => "screen"
  | fixed => "static"

/-- The word for a kind of dialog. -/
def DialogKind.name : DialogKind → String
  | alert => "alert"
  | dialog => "dialog"
  | confirm => "confirm"

/-- The word for a kind of variable. -/
def VariableKind.name : VariableKind → String
  | number => "number"
  | boolean => "boolean"
  | string => "string"

namespace Screen

/-- The first item with an id. -/
def item? (s : Screen) (id : String) : Option Item := s.items.find? fun item ↦ item.id == id

/-- The first prompt. -/
def prompt? (s : Screen) : Option Prompt := s.items.findSome? fun item ↦ item.content.prompt?

end Screen

/-- Where each id stands in a list. -/
abbrev IdTable := Std.ExtTreeMap String Nat

/-- A document with its tables. -/
structure Document where
  metadata : Metadata
  config : DocumentConfig
  screens : List Screen
  dialogs : List Dialog
  declarations : List Declaration
  screenTable : IdTable
  dialogTable : IdTable

/-- What has an id that must be unique. -/
inductive Identified where
  | screen
  | dialog
  deriving DecidableEq, Repr

/-- Why parts do not make a document. -/
inductive DocumentError where
  | duplicateId (kind : Identified) (id : String)
  deriving DecidableEq, Repr

/-- What is said about a repeated id. -/
def DocumentError.message : DocumentError → String
  | duplicateId .screen id => "duplicate screen id: " ++ id
  | duplicateId .dialog id => "duplicate dialog id: " ++ id

/-- The table of ids, given those of the elements before, or the first id that occurs again. -/
def tabulate (table : IdTable) (position : Nat) : List String → Except String IdTable
  | [] => .ok table
  | id :: ids =>
    if table.contains id then .error id
    else tabulate (table.insert id position) (position + 1) ids

namespace Document

/-- The document made of given parts. -/
def ofParts (metadata : Metadata) (config : DocumentConfig) (screens : List Screen)
    (dialogs : List Dialog) (declarations : List Declaration) : Except DocumentError Document := do
  let screenTable ← (tabulate ∅ 0 (screens.map Screen.id)).mapError (.duplicateId .screen)
  let dialogTable ← (tabulate ∅ 0 (dialogs.map Dialog.id)).mapError (.duplicateId .dialog)
  return { metadata, config, screens, dialogs, declarations, screenTable, dialogTable }

/-- The screen with an id. -/
def screen? (d : Document) (id : String) : Option Screen :=
  d.screenTable[id]?.bind fun position ↦ d.screens[position]?

/-- The dialog with an id. -/
def dialog? (d : Document) (id : String) : Option Dialog :=
  d.dialogTable[id]?.bind fun position ↦ d.dialogs[position]?

/-- The screen that is shown first. -/
def startScreen? (d : Document) : Option Screen := d.screens.head?

/-- The items of all screens in order. -/
def items (d : Document) : List Item := d.screens.flatMap Screen.items

/-- The toggles of all screens in order, with their states. -/
def toggles (d : Document) : List (String × List ToggleState) :=
  d.items.filterMap fun item ↦
    match item.content with
    | .toggle states _ => some (item.id, states)
    | _ => none

/-- The store a story starts with; a later declaration of a name replaces an earlier one. -/
def initialStore (d : Document) : Store :=
  Store.ofList (d.declarations.map fun declaration ↦ (declaration.id, declaration.initial))

end Document

end Teletype
