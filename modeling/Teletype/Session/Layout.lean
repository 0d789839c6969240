import Teletype.Action.Toggle
import Teletype.Layout.Render
import Teletype.Markup.Slice
/-!
# Laying out items

The text of an item on a screen: texts and links show their own, toggles that of the state they are
in, prompts and countdowns their prompt. Pictures and variable changes have none.
-/

namespace Teletype

/-- The text of an item before placeholders are filled. -/
def Item.sourceText? (toggles : ToggleBoard) (item : Item) : Option String :=
  match item.content with
  | .text text _ | .link text _ _ => some text
  | .toggle states _ => (states[(toggles.active? item.id).getD 0]?).map ToggleState.text
  | .prompt p => some p.prompt
  | .countdown c => some c.prompt
  | .bitmap .. | .mutate .. => none

/-- What laying out an item reads besides the item. -/
structure Stage where
  setting : Layout.Setting
  toggles : ToggleBoard
  columns : Nat

namespace Stage

/-- Lays out an item and takes the result apart for its reveal. -/
def layout (stage : Stage) (item : Item) : Except Layout.FormatError Markup.SlicedText :=
  match item.sourceText? stage.toggles, item.content.options? with
  | some text, some options => do
    let formatted ← Layout.render stage.setting stage.columns options text
    return .ofOptions formatted options
  | _, _ => return .of [] false false

end Stage

end Teletype
