import Teletype.Markup.Plain
import Teletype.Session.View
import Teletype.Lint.Tool
/-!
# What the shell shows

The screen as plain lines, the open dialog in a box, and the texts that explain the shell.
-/

namespace Teletype.Shell

/-- A dialog kind as a heading. -/
def headingOf : DialogKind → String
  | .alert => "Alert"
  | .dialog => "Dialog"
  | .confirm => "Confirm"

/-- An item as a line. The cursor stands behind what is still being revealed, and what can be acted
on shows its kind and its id. -/
def itemLine (item : RenderedItem) : String :=
  let shown := Markup.plainText item.slice.revealed
  let line := String.ofList (if item.state = .done then shown else shown ++ [item.slice.cursor])
  if item.kind = "link" ∨ item.kind = "toggle" then
    line ++ "    [" ++ item.kind ++ " " ++ item.id ++ "]"
  else line

/-- A dialog as lines. -/
def dialogLines (d : Dialog) : List String :=
  ["+-- " ++ headingOf d.kind ++ ": " ++ d.id ++ " --"] ++ d.lines.map ("| " ++ ·) ++
    ["+-- :dismiss to close --"]

/-- An error as a line. -/
def errorLine (e : SessionError) : String := "ERROR: " ++ e.message

/-- The screen that shows and the open dialog. -/
def screenLines (s : Session) : List String :=
  match s.renderScreen with
  | .error e => [errorLine e]
  | .ok items =>
    ["--- " ++ s.screenId?.getD "?" ++ " ---"] ++ items.map itemLine ++
      (s.openDialog?.map dialogLines).getD [] ++ [""]

/-- The variables with their values and kinds. -/
def variableLines (s : Session) : List String :=
  s.world.store.toList.map fun (name, value) ↦
    "  " ++ name ++ " = " ++ value.display ++ " (" ++ value.typeName ++ ")"

/-- What is printed when a document has been loaded. -/
def greetingLines (s : Session) : List String :=
  ["Loaded '" ++ s.document.metadata.title ++ "' by " ++ s.document.metadata.author,
    Decimal.natText s.document.screens.length ++ " screens, " ++ Decimal.natText s.columns ++
      " columns",
    "Type ':help' for commands.", ""]

/-- How the shell is called. -/
def usageLines : List String :=
  ["Preview: interactive terminal shell for playing through a content document.",
    "",
    "Usage: preview --document <path> [--config <path>] [--columns <n>] [--seed <n>]",
    "",
    "  --document <path>  Content document (JSON)",
    "  --config <path>    Interpreter settings (RON, optional)",
    "  --columns <n>      Column budget before the document's clamp",
    "  --seed <n>         RNG seed for rule-generated values",
    "",
    "Set RUST_LOG=debug to trace dispatch and variable writes."]

/-- The commands of the shell. -/
def helpLines : List String :=
  ["Typed lines go to the screen's prompt. Shell commands:",
    "  :tick [n]            Advance the reveal n ticks",
    "  :skip                Finish the reveal",
    "  :screen <id>         Jump to a screen",
    "  :link <id> [shift]   Follow a link item",
    "  :toggle <id>         Cycle a toggle item",
    "  :dismiss             Close the open dialog",
    "  :vars                List variables",
    "  :set <name> <value>  Write a variable",
    "  :snapshot            Print variables as RON",
    "  :columns <n>         Change the column budget",
    "  :help                Show this help",
    "  :quit                Exit"]

end Teletype.Shell
