import Teletype.Json.Reader
import Teletype.Json.Writer
import Teletype.Ron.Reader
import Teletype.Ron.Writer
import Teletype.Store.Basic
import Teletype.Value.Json
/-!
# Saving a store

A saved store is a table from names to values, as JSON or as RON. Both list the names in order, and
both read a table in which a name may be repeated: its last value counts.
-/

namespace Teletype

namespace Value

/-- The value that a RON value is. -/
def ofRon? : Ron → Option Value
  | .bool b => some (bool b)
  | .natural n => some (number (Decimal.ofInt n))
  | .number x => some (number x)
  | .string s => some (text s)
  | _ => none

/-- A value as RON text. -/
def ronText : Value → String
  | bool b => boolText b
  | number x => ronLayout.text x
  | text s => Ron.quote s

end Value

namespace Store

/-- A store as a JSON object. -/
def toJson (s : Store) : Json := .object (s.toList.map fun (name, value) ↦ (name, value.toJson))

/-- A store as JSON text. -/
def jsonText (s : Store) : String := s.toJson.text

/-- The store that a JSON object writes. -/
def ofJson? : Json → Option Store
  | .object members => do
    let entries ← members.mapM fun (name, value) ↦ (Value.ofJson? value).map (name, ·)
    return ofList entries
  | _ => none

/-- The store that a JSON text writes. -/
def ofJsonText? (s : String) : Option Store := Json.ofText? s >>= ofJson?

/-- A store as RON text. -/
def ronText (s : Store) : String :=
  "\x7b" ++ String.intercalate ","
    (s.toList.map fun (name, value) ↦ Ron.quote name ++ ":" ++ value.ronText) ++ "\x7d"

/-- The store that a RON map writes. -/
def ofRon? : Ron → Option Store
  | .map entries => do
    let entries ← entries.mapM fun (name, value) ↦ do
      return (← name.string?, ← Value.ofRon? value)
    return ofList entries
  | _ => none

/-- The store that a RON text writes. -/
def ofRonText? (s : String) : Option Store := RonText.ofText? s >>= fun r ↦ ofRon? r.value

end Store

end Teletype
