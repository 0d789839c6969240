import Teletype.Session.Play
import Teletype.Shell.Arguments
import Teletype.Shell.Display
import Teletype.Store.Save
/-!
# Answering lines

A line that begins with a colon is a command of the shell, every other line is input for the prompt
of the screen.
-/

namespace Teletype.Shell

/-- What the shell prints on a line, and the session after it unless the line ended it. -/
structure Answer where
  lines : List String
  session : Option Session

namespace Answer

/-- Prints lines and goes on with a session. -/
def printing (s : Session) (lines : List String) : Answer := ⟨lines, some s⟩

/-- Plays on; afterwards the screen or the failure is printed. -/
def playing {α : Type} (s : Session) (p : Play α) : Answer :=
  match p s with
  | .ok _ s => printing s (screenLines s)
  | .error e s => printing s [errorLine e]

end Answer

/-- Lets a number of ticks pass. -/
def ticks : Nat → Play Unit
  | 0 => return ()
  | n + 1 => do
    let _ ← Session.tick
    ticks n

/-- Answers input for the prompt of the screen. -/
def answerInput (s : Session) (input : String) : Answer :=
  match Session.submit input s with
  | .ok outcome s =>
    .printing s ((if outcome.matched then [] else ["(no command matched)"]) ++ screenLines s)
  | .error e s => .printing s (errorLine e :: screenLines s)

/-- Turns a toggle. -/
def answerToggle (s : Session) (id : String) : Answer :=
  let s := s.flip id
  match s.world.toggles.active? id with
  | some place =>
    .printing s (("Toggle '" ++ id ++ "' -> state " ++ Decimal.natText place) :: screenLines s)
  | none => .printing s ["No toggle '" ++ id ++ "'"]

/-- The value that words write: a JSON value, or else themselves. -/
def valueOfWords (words : List String) : Value :=
  let written := String.intercalate " " words
  ((Json.ofText? written).bind Value.ofJson?).getD (.text written)

/-- Gives a variable a value. -/
def answerSet (s : Session) : List String → Answer
  | name :: first :: rest =>
    let value := valueOfWords (first :: rest)
    .printing (s.set name value) [name ++ " = " ++ value.display]
  | _ => .printing s ["Usage: :set <name> <value>"]

/-- Offers a number of columns, or tells how many there are. -/
def answerColumns (s : Session) (argument : Option String) : Answer :=
  match argument.bind (wholeNumber? (2 ^ 64)) with
  | some n =>
    let s := s.resize n
    .printing s (("Columns: " ++ Decimal.natText s.columns) :: screenLines s)
  | none => .printing s ["Columns: " ++ Decimal.natText s.columns]

/-- Closes the open dialog. -/
def answerDismiss (s : Session) : Answer :=
  .printing s.dismiss [match s.dialog with
    | some id => "Closed dialog '" ++ id ++ "'"
    | none => "No dialog open"]

/-- Answers a command of the shell, given its arguments. -/
def answerCommand (s : Session) (command : String) (arguments : List String) : Answer :=
  match command, arguments with
  | "quit", _ | "exit", _ | "q", _ => ⟨["Goodbye."], none⟩
  | "help", _ | "h", _ | "?", _ => .printing s helpLines
  | "tick", _ => .playing s (ticks ((arguments.head?.bind (wholeNumber? (2 ^ 64))).getD 1))
  | "skip", _ => .playing s Session.skip
  | "screen", id :: _ => .playing s (Session.activate id)
  | "screen", [] => .printing s ["Usage: :screen <id>"]
  | "link", id :: rest => .playing s (Session.followLink id (rest.head? == some "shift"))
  | "link", [] => .printing s ["Usage: :link <id> [shift]"]
  | "toggle", id :: _ => answerToggle s id
  | "toggle", [] => .printing s ["Usage: :toggle <id>"]
  | "dismiss", _ => answerDismiss s
  | "vars", _ => .printing s (variableLines s)
  | "set", _ => answerSet s arguments
  | "snapshot", _ => .printing s [s.world.store.ronText]
  | "columns", _ => answerColumns s arguments.head?
  | _, _ =>
    .printing s ["Unknown command: ':" ++ command ++ "'. Type ':help' for available commands."]

/-- Answers a line without its end. -/
def answer (s : Session) (line : String) : Answer :=
  match line.toList with
  | ':' :: rest =>
    match Text.words (String.ofList rest) with
    | [] => .printing s []
    | command :: arguments => answerCommand s (Text.lowercase command) arguments
  | _ => answerInput s line

/-- What stands in front of the next line. -/
def promptText (s : Session) : String := s.screenId?.getD "?" ++ "> "

/-- Answers lines until they end or one of them ends the shell. -/
def answerAll (s : Session) : List String → String
  | [] => promptText s
  | line :: lines =>
    let a := answer s line
    promptText s ++ linesText a.lines ++
      match a.session with
      | some s => answerAll s lines
      | none => ""

end Teletype.Shell
