import Teletype.Decimal.Numeral
/-!
# JSON values

Arrays keep their order, and objects keep the order of their members and every repeated key, because
readers of records refuse repeats that a table would hide.
-/

namespace Teletype

/-- A JSON number: a whole number that was written as one, or a double. -/
inductive JsonNumber where
  | int (n : Int)
  | float (x : Float)

/-- A JSON value. -/
inductive Json where
  | null
  | bool (b : Bool)
  | number (n : JsonNumber)
  | string (s : String)
  | array (items : List Json)
  | object (members : List (String × Json))
  /-- Well-formed text without a value: a number beyond the doubles, a string with half of a
  surrogate pair, or nesting that is too deep. It may stand only where nobody looks at it. -/
  | unreadable

/-- The double that a JSON number stands for. -/
def JsonNumber.toFloat : JsonNumber → Float
  | int n => Decimal.ofInt n
  | float x => x

namespace Json

/-- A whole number. -/
def ofNat (n : Nat) : Json := number (.int n)

/-- The value of an optional part, absent parts being `null`. -/
def ofOption {α : Type} (f : α → Json) : Option α → Json
  | some a => f a
  | none => null

mutual

/-- Whether every part of a value has a value. -/
def isReadable : Json → Bool
  | array items => allReadable items
  | object members => membersReadable members
  | unreadable => false
  | null | bool _ | number _ | string _ => true

/-- Whether every part of several values has a value. -/
def allReadable : List Json → Bool
  | [] => true
  | item :: items => item.isReadable && allReadable items

/-- Whether every part of several members has a value. -/
def membersReadable : List (String × Json) → Bool
  | [] => true
  | (_, value) :: members => value.isReadable && membersReadable members

end

/-- The value itself, when every part of it has a value. -/
def readable? (j : Json) : Option Json := if j.isReadable then some j else none

end Json

end Teletype
