import Teletype.Lint.Tool
import Teletype.Shell.Tool
/-!
# The command line

The first argument names the tool, the others are its arguments. All that is decided is decided by
`Lint.run`, `Shell.launch` and `Shell.answer`; here files and lines are read and texts are printed.
-/

namespace Teletype.Console

/-- The text of a file, if it can be read. -/
def readText? (path : String) : IO (Option String) :=
  try return some (← IO.FS.readFile path)
  catch _ => return none

/-- The texts of the files among some arguments. -/
def readTexts (arguments : List String) : IO (List (String × Option String)) :=
  arguments.mapM fun path ↦ return (path, ← readText? path)

/-- A number that differs from one run to the next. -/
def entropy : IO Nat := return (← IO.getRandomBytes 8).foldl (fun n b ↦ 256 * n + b.toNat) 0

/-- Prints at once. -/
def say (text : String) : IO Unit := do
  IO.print text
  (← IO.getStdout).flush

/-- Prompts for lines and answers them until they end or one of them ends the shell. -/
partial def converse (s : Session) : IO Unit := do
  say (Shell.promptText s)
  let line ← (← IO.getStdin).getLine
  unless line.isEmpty do
    let a := Shell.answer s (String.ofList (Shell.chomp line.toList))
    say (linesText a.lines)
    match a.session with
    | some s => converse s
    | none => return

/-- Prints what a tool printed, and ends with its status. -/
def conclude (r : ToolResult) : IO UInt32 := do
  say r.output
  return r.status.toUInt32

end Teletype.Console

open Teletype Console in
/-- Runs the tool that the first argument names. -/
def main : List String → IO UInt32
  | "content_linter" :: arguments => do
    let texts ← readTexts arguments
    conclude (Lint.run (fun path ↦ (texts.lookup path).join) arguments)
  | "preview" :: arguments => do
    let texts ← readTexts arguments
    match Shell.launch (fun path ↦ (texts.lookup path).join) (← entropy) arguments with
    | .closed r => conclude r
    | .opened output s => do
      say output
      converse s
      return 0
  | _ => conclude ⟨1, linesText (Lint.usage ++ [""] ++ Shell.usageLines)⟩
