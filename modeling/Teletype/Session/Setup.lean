import Teletype.Document.Json
import Teletype.Session.Basic
import Teletype.Session.Settings
/-!
# Setting up a session

A session is set up from a document and from settings, each given as it is or as the text of a file,
and from what the host sets besides. What the host sets counts before the settings.
-/

namespace Teletype

/-- Where a part of the setup comes from. -/
inductive Supply (α : Type) where
  | absent
  | given (a : α)
  /-- The text of a file, if it could be opened. -/
  | file (text : Option String)

/-- What a session is set up from. -/
structure Setup where
  document : Supply Document
  settings : Supply Settings := .absent
  seed : Option Nat := none
  columns : Option Nat := none
  cursor : Option Char := none
  tickMs : Option Nat := none
  interpolation : Option Layout.Interpolation := none
  hostCommands : List Command := []
  fonts : Option Layout.FontRenderer := none
  /-- The seed that stands in when nobody sets one. -/
  entropy : Nat := 0

/-- Why a session cannot be set up. -/
inductive SetupError where
  | settingsFile
  | settingsText
  | documentFile
  | document (e : DocumentReadError)
  | noDocument
  | noScreens
  | unknownScreen (id : String)
  deriving DecidableEq, Repr

/-- What is said when a session cannot be set up. -/
def SetupError.message : SetupError → String
  | settingsFile => "IO error"
  | settingsText => "RON error"
  | documentFile => "document error: IO error"
  | document .json => "document error: JSON error"
  | document (.parts e) => "document error: " ++ e.message
  | noDocument => "no document supplied"
  | noScreens => "document has no screens"
  | unknownScreen id => "unknown screen: " ++ id

namespace Setup

/-- The settings of a setup by themselves. -/
def ownSettings (setup : Setup) : Except SetupError Settings :=
  match setup.settings with
  | .absent => .ok {}
  | .given settings => .ok settings
  | .file none => .error .settingsFile
  | .file (some text) =>
    match Settings.ofText? text with
    | some settings => .ok settings
    | none => .error .settingsText

/-- Settings with what the host sets in their place. -/
def overriding (setup : Setup) (settings : Settings) : Settings :=
  { settings with
    seed := setup.seed.or settings.seed
    columns := setup.columns.getD settings.columns
    cursor := setup.cursor.getD settings.cursor
    tickMs := setup.tickMs.getD settings.tickMs }

/-- The document of a setup. -/
def ownDocument (setup : Setup) : Except SetupError Document :=
  match setup.document with
  | .absent => .error .noDocument
  | .given document => .ok document
  | .file none => .error .documentFile
  | .file (some text) => (Document.ofText text).mapError .document

/-- The screen to begin with: the one that is set, or else the first one. -/
def startScreen (settings : Settings) (document : Document) : Except SetupError String :=
  match document.startScreen?, settings.startScreen with
  | none, _ => .error .noScreens
  | some first, none => .ok first.id
  | _, some id => if (document.screen? id).isSome then .ok id else .error (.unknownScreen id)

/-- Sets up a session in which no screen shows yet. -/
def session (setup : Setup) : Except SetupError Session := do
  let settings := setup.overriding (← setup.ownSettings)
  let document ← setup.ownDocument
  let start ← startScreen settings document
  return {
    document
    world := {
      store := document.initialStore
      toggles := .ofToggles document.toggles
      random := .ofSeed (UInt64.ofNat (settings.seed.getD setup.entropy)) }
    dispatcher := .ofCommands setup.hostCommands
    interpolation := setup.interpolation.getD { missing := settings.missing.policy }
    fonts := setup.fonts
    columns := document.config.clampColumns settings.columns
    cursor := settings.cursor
    tickInterval := .ofMillis settings.tickMs
    start
    run := none
    dialog := none }

end Setup

end Teletype
