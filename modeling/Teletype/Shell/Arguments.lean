import Teletype.Session.Setup
/-!
# Arguments of the shell

Which files to play, and what is set besides. Numbers that cannot be read are as if they were not
given.
-/

namespace Teletype.Shell

/-- A whole number below a bound: digits, with a plus sign at most. -/
def wholeNumber? (bound : Nat) (s : String) : Option Nat :=
  let digits := match s.toList with
    | '+' :: cs => cs
    | cs => cs
  if digits.isEmpty || !digits.all Decimal.isDigit then none
  else
    let n := Decimal.digitsValue digits
    if n < bound then some n else none

/-- What the shell was called with. -/
structure Arguments where
  document : Option String := none
  config : Option String := none
  columns : Option Nat := none
  seed : Option Nat := none
  deriving DecidableEq, Repr

namespace Arguments

/-- Reads arguments into those before them; the first that is not known is the failure. -/
def readOnto (a : Arguments) : List String → Except String Arguments
  | [] => .ok a
  | "--document" :: path :: rest => readOnto { a with document := some path } rest
  | "--config" :: path :: rest => readOnto { a with config := some path } rest
  | "--columns" :: n :: rest => readOnto { a with columns := wholeNumber? (2 ^ 64) n } rest
  | "--seed" :: n :: rest => readOnto { a with seed := wholeNumber? (2 ^ 64) n } rest
  | unknown :: _ => .error unknown

/-- What a session is set up from, given how to read a file. -/
def setup (a : Arguments) (document : String) (entropy : Nat) (read : String → Option String) :
    Setup where
  document := .file (read document)
  settings := match a.config with
    | some path => .file (read path)
    | none => .absent
  seed := a.seed
  columns := a.columns
  entropy

end Arguments

end Teletype.Shell
