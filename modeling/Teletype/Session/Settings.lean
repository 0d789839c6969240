import Teletype.Layout.Placeholder
import Teletype.Markup.Slice
import Teletype.Ron.Reader
/-!
# Settings

What a host may set about a session in a file: its width and clock, its seed, the glyph of the
cursor, what stands for unset variables, and the screen to begin with.
-/

namespace Teletype

/-- What stands for an unset variable, as far as a file can say it. -/
inductive MissingMode where
  | leave
  | empty
  | fail
  deriving DecidableEq, Repr

namespace MissingMode

/-- The word for a mode. -/
def name : MissingMode → String
  | leave => "Leave"
  | empty => "Empty"
  | fail => "Fail"

/-- The mode with a given word. -/
def named? : String → Option MissingMode
  | "Leave" => some leave
  | "Empty" => some empty
  | "Fail" => some fail
  | _ => none

/-- The policy that a mode stands for. -/
def policy : MissingMode → Layout.MissingPolicy
  | leave => .leave
  | empty => .empty
  | fail => .fail

end MissingMode

/-- The settings of a session. -/
structure Settings where
  columns : Nat := 80
  seed : Option Nat := none
  cursor : Char := Markup.defaultCursor
  missing : MissingMode := .leave
  /-- The screen to begin with, instead of the first one of the document. -/
  startScreen : Option String := none
  /-- The milliseconds that one tick stands for. -/
  tickMs : Nat := 16
  deriving DecidableEq, Repr

namespace Settings

/-- The name that may stand in front of settings. -/
def recordName : String := "InterpreterConfig"

/-- The settings that a RON text writes. Fields that are not known are passed over. -/
def ofText? (s : String) : Option Settings := do
  let text ← RonText.ofText? s
  let fields ← Ron.fields? recordName text.value
  let optional {α : Type} := Ron.option? (α := α) text.implicitSome
  return {
    columns := ← Ron.field? fields "columns" 80 Ron.natural?
    seed := ← Ron.field? fields "seed" none (optional Ron.natural?)
    cursor := ← Ron.field? fields "cursor_glyph" Markup.defaultCursor Ron.char?
    missing := ← Ron.field? fields "missing_variables" .leave fun r ↦
      r.word? >>= MissingMode.named?
    startScreen := ← Ron.field? fields "start_screen" none (optional Ron.string?)
    tickMs := ← Ron.field? fields "tick_ms" 16 Ron.natural? }

end Settings

end Teletype
