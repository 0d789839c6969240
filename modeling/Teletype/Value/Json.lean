import Teletype.Json.Record
import Teletype.Value.Basic
/-!
# Values in JSON

A value is the plain JSON scalar: a truth value, a number or a text.
-/

namespace Teletype.Value

/-- A value as JSON. -/
def toJson : Value → Json
  | bool b => .bool b
  | number x => .number (.float x)
  | text s => .string s

/-- The value that a JSON scalar is. -/
def ofJson? : Json → Option Value
  | .bool b => some (bool b)
  | .number n => some (number n.toFloat)
  | .string s => some (text s)
  | _ => none

end Teletype.Value
