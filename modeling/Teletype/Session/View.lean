import Teletype.Session.Basic
/-!
# What a session shows

The items of the screen that shows, each cut at the point its reveal has come to.
-/

namespace Teletype

/-- An item as it is drawn at one moment. -/
structure RenderedItem where
  id : String
  kind : String
  className : Option String
  state : LoadState
  slice : Markup.Slice
  deriving DecidableEq, Repr

namespace Session

/-- How many characters of an item are shown in a state; all of them when it is done. -/
def shownCount (s : Session) (id : String) : LoadState → Option Nat
  | .done => none
  | .active => (s.run.bind fun run ↦ run.item? id).map ItemProgress.revealed
  | .unloaded | .ready => some 0

/-- An item of the screen that shows, as it is drawn now. -/
def render (s : Session) (id : String) : Except SessionError RenderedItem := do
  let item ← s.item id
  let state := (s.state? id).getD .unloaded
  let text ← ((s.stage s.world).layout item).mapError .format
  return {
    id := item.id
    kind := item.content.kindName
    className := item.className
    state
    slice := text.slice (s.shownCount id state) s.cursor }

/-- The items of the screen that shows, as they are drawn now. Changes of variables are not. -/
def renderScreen (s : Session) : Except SessionError (List RenderedItem) :=
  match s.screen? with
  | none => .error .noActiveScreen
  | some screen =>
    (screen.items.filter fun item ↦ !item.content.isMutation).mapM fun item ↦ s.render item.id

/-- A countdown of the screen that shows, as it is displayed after some time. -/
def countdown (s : Session) (id : String) (elapsed : Duration) : Except SessionError String := do
  let item ← s.item id
  match item.content with
  | .countdown c => return c.display elapsed
  | _ => throw (s.noItem id)

end Session

end Teletype
