import Teletype.Command.Dispatch
import Teletype.Document.Basic
import Teletype.Reveal.Run
import Teletype.Session.Layout
/-!
# Sessions

A session is one document being played: the variables, toggles and random source, the reveal of the
screen that shows, and the dialog that is open. What is done to a session may fail and then leaves
it as it was at the failure.
-/

namespace Teletype

/-- A document being played. -/
structure Session where
  document : Document
  world : World
  dispatcher : Dispatcher
  interpolation : Layout.Interpolation
  fonts : Option Layout.FontRenderer
  /-- The columns in use, within the limits of the document. -/
  columns : Nat
  cursor : Char
  /-- The time that one tick stands for. -/
  tickInterval : Duration
  /-- The screen to begin with. -/
  start : String
  /-- The reveal of the screen that shows. -/
  run : Option ScreenRun
  /-- The id of the open dialog. -/
  dialog : Option String

/-- Why playing fails. -/
inductive SessionError where
  | action (e : ActionError)
  | format (e : Layout.FormatError)
  | unknownScreen (id : String)
  | unknownDialog (id : String)
  | unknownItem (screen item : String)
  | noActiveScreen
  deriving DecidableEq, Repr

/-- What is said when playing fails. -/
def SessionError.message : SessionError → String
  | action e => "action error: " ++ e.message
  | format e => "format error: " ++ e.message
  | unknownScreen id => "unknown screen: " ++ id
  | unknownDialog id => "unknown dialog: " ++ id
  | unknownItem screen item => "no item " ++ item ++ " on screen " ++ screen
  | noActiveScreen => "no screen is active"

/-- Something done to a session that may fail. -/
abbrev Play := EStateM SessionError Session

namespace Session

/-- The id of the screen that shows. -/
def screenId? (s : Session) : Option String := s.run.map ScreenRun.screen

/-- The screen that shows. -/
def screen? (s : Session) : Option Screen := s.screenId?.bind s.document.screen?

/-- The dialog that is open. -/
def openDialog? (s : Session) : Option Dialog := s.dialog.bind s.document.dialog?

/-- How far an item of the screen that shows has come. -/
def state? (s : Session) (id : String) : Option LoadState := s.run.bind fun run ↦ run.state? id

/-- What laying out an item reads in a given world. -/
def stage (s : Session) (w : World) : Stage where
  setting := { store := w.store, interpolation := s.interpolation, fonts := s.fonts }
  toggles := w.toggles
  columns := s.columns

/-- The failure to find an item. -/
def noItem (s : Session) (id : String) : SessionError := .unknownItem (s.screenId?.getD "") id

/-- The item of the screen that shows with an id. -/
def item (s : Session) (id : String) : Except SessionError Item :=
  match s.screen? with
  | none => .error .noActiveScreen
  | some screen =>
    match screen.item? id with
    | some item => .ok item
    | none => .error (s.noItem id)

/-- Work on the world of a session. -/
def work {α : Type} (w : Work α) : Play α := fun s ↦
  match w s.world with
  | .ok a world => .ok a { s with world }
  | .error e world => .error (.action e) { s with world }

/-- Gives a variable a value. -/
def set (s : Session) (name : String) (value : Value) : Session :=
  { s with world := { s.world with store := s.world.store.set name value } }

/-- Writes every value of a saved store. -/
def restore (s : Session) (saved : Store) : Session :=
  { s with world := { s.world with store := s.world.store.restore saved } }

/-- Offers a number of columns, of which the document allows those within its limits. -/
def resize (s : Session) (columns : Nat) : Session :=
  { s with columns := s.document.config.clampColumns columns }

/-- Turns a toggle to its next state. -/
def flip (s : Session) (id : String) : Session :=
  { s with world := { s.world with toggles := s.world.toggles.flip id } }

/-- Closes the open dialog. -/
def dismiss (s : Session) : Session := { s with dialog := none }

end Session

end Teletype
