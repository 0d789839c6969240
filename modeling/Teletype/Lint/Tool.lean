import Teletype.Document.Json
import Teletype.Lint.Check
/-!
# The linter as a tool

A document is read from a file and its report is printed. The tool succeeds when there are no
errors, and when it is strict, no warnings either.
-/

namespace Teletype

/-- What a tool printed, and the status it ended with. -/
structure ToolResult where
  status : Nat
  output : String
  deriving DecidableEq, Repr

/-- Lines of text, each with its end. -/
def linesText (lines : List String) : String := String.join (lines.map (· ++ "\n"))

namespace Lint

/-- The line that counts the parts of a document. -/
def headline (d : Document) : String :=
  "Loaded '" ++ d.metadata.title ++ "': " ++ Decimal.natText d.screens.length ++ " screens, " ++
    Decimal.natText d.dialogs.length ++ " dialogs, " ++
    Decimal.natText d.declarations.length ++ " variables"

namespace Report

/-- A report as it is printed. -/
def lines (r : Report) : List String :=
  ["", "=== Content Lint Report ===", ""] ++
    (if r.errors.isEmpty && r.warnings.isEmpty then ["All checks passed!"] else []) ++
    r.warnings.map ("WARNING: " ++ ·) ++ r.errors.map ("ERROR: " ++ ·) ++
    ["", "Summary: " ++ Decimal.natText r.errors.length ++ " errors, " ++
      Decimal.natText r.warnings.length ++ " warnings"]

/-- Whether a document passes. -/
def passes (r : Report) (strict : Bool) : Bool :=
  r.errors.isEmpty && !(strict && !r.warnings.isEmpty)

end Report

/-- How the tool is called. -/
def usage : List String := ["Usage: content_linter <document.json> [--strict]"]

/-- Runs the tool on its arguments, given how to read a file. -/
def run (read : String → Option String) : List String → ToolResult
  | [] => ⟨0, linesText usage⟩
  | path :: options =>
    if path = "--help" ∨ path = "-h" then ⟨0, linesText usage⟩
    else
      match (read path).map Document.ofText with
      | some (.ok d) =>
        let report := check d
        ⟨if report.passes (options.contains "--strict") then 0 else 1,
          linesText (headline d :: report.lines)⟩
      | _ => ⟨1, ""⟩

end Lint

end Teletype
