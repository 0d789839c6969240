import Teletype.Shell.Answer
/-!
# The shell as a tool

The shell loads a document, shows its first screen, and answers lines until they end.
-/

namespace Teletype.Shell

/-- A line without the line feeds and carriage returns at its end. -/
def chomp (line : List Char) : List Char :=
  (line.reverse.dropWhile fun c ↦ c == '\r' || c == '\n').reverse

/-- The lines of an input. What stands behind the last line feed is a line only if there is
something. -/
def inputLines (input : String) : List String :=
  let lines := Text.linesOf input.toList
  let lines := if lines.getLast? == some [] then lines.dropLast else lines
  lines.map fun line ↦ String.ofList (chomp line)

/-- What came of starting the shell. -/
inductive Opening where
  /-- Nothing is played; the shell ends with a status. -/
  | closed (result : ToolResult)
  /-- The text printed so far, and the session to go on with. -/
  | opened (output : String) (s : Session)

/-- Starts the shell on its arguments, given how to read a file. -/
def launch (read : String → Option String) (entropy : Nat) (arguments : List String) : Opening :=
  if arguments.isEmpty || arguments.head? == some "--help" || arguments.head? == some "-h" then
    .closed ⟨0, linesText usageLines⟩
  else
    match Arguments.readOnto {} arguments with
    | .error _ => .closed ⟨1, linesText usageLines⟩
    | .ok a =>
      match a.document with
      | none => .closed ⟨1, linesText usageLines⟩
      | some path =>
        match (a.setup path entropy read).session with
        | .error _ => .closed ⟨1, ""⟩
        | .ok s =>
          match Session.begin s with
          | .error _ s => .closed ⟨1, linesText (greetingLines s)⟩
          | .ok _ s => .opened (linesText (greetingLines s ++ screenLines s)) s

/-- Runs the shell on its arguments and all of its input, given how to read a file. -/
def run (read : String → Option String) (entropy : Nat) (arguments : List String)
    (input : String) : ToolResult :=
  match launch read entropy arguments with
  | .closed result => result
  | .opened output s => ⟨0, output ++ answerAll s (inputLines input)⟩

end Teletype.Shell
