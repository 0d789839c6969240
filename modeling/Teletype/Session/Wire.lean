import Teletype.Session.Setup
import Teletype.Session.View
/-!
# Sessions on the wire

What a host that draws by itself is told about a session, as JSON: events, drawn items, outcomes of
input, and the open dialog.
-/

namespace Teletype

/-- The word for how far an item has come. -/
def LoadState.name : LoadState → String
  | unloaded => "Unloaded"
  | ready => "Ready"
  | active => "Active"
  | done => "Done"

namespace LifecycleEvent

/-- The word for an event. -/
def kindName : LifecycleEvent → String
  | ready _ => "ready"
  | activated _ => "activated"
  | revealed _ _ => "revealed"
  | done _ => "done"

/-- The id of the item that an event is about. -/
def item : LifecycleEvent → String
  | ready id | activated id | revealed id _ | done id => id

/-- The number of characters that an event tells of. -/
def count? : LifecycleEvent → Option Nat
  | revealed _ count => some count
  | _ => none

/-- An event as JSON. -/
def toJson (e : LifecycleEvent) : Json :=
  .object ([("kind", .string e.kindName), ("id", .string e.item)] ++
    (e.count?.map fun count ↦ ("count", .ofNat count)).toList)

end LifecycleEvent

/-- A drawn item as JSON. -/
def RenderedItem.toJson (item : RenderedItem) : Json :=
  .object [
    ("id", .string item.id),
    ("kind", .string item.kind),
    ("className", .ofOption .string item.className),
    ("state", .string item.state.name),
    ("revealed", .string (String.ofList item.slice.revealed)),
    ("cursor", .string (String.singleton item.slice.cursor)),
    ("hidden", .string (String.ofList item.slice.hidden))]

namespace Session

/-- What came of an input, and the screen that shows after it, as JSON. -/
def outcomeToJson (s : Session) (o : DispatchOutcome) : Json :=
  .object [
    ("matched", .bool o.matched),
    ("target", .ofOption .string o.target?),
    ("screen", .ofOption .string s.screenId?)]

/-- The open dialog as JSON. -/
def dialogToJson (s : Session) : Json :=
  .ofOption (fun d : Dialog ↦ .object [
    ("id", .string d.id),
    ("kind", .string d.kind.name),
    ("content", .array (d.lines.map .string))]) s.openDialog?

/-- A session for a host that gives no more than a number of columns and a seed. -/
def ofDocument (document : Document) (columns seed : Nat) : Except SetupError Session :=
  Setup.session { document := .given document, settings := .given { columns, seed := some seed } }

/-- A session of the document that a JSON text writes. -/
def ofText (text : String) (columns seed : Nat) : Except SetupError Session :=
  match Document.ofText text with
  | .ok document => ofDocument document columns seed
  | .error e => .error (.document e)

end Session

end Teletype
