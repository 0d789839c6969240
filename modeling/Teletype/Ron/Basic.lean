import Teletype.Decimal.Numeral
/-!
# RON values

RON is a notation for settings and saved games: named records, options and maps, with comments. A
value here is a well-formed text taken apart; what it means is up to who asks for it.
-/

namespace Teletype

/-- A RON value. -/
inductive Ron where
  | bool (b : Bool)
  /-- A whole number below `2 ^ 64` without a sign. -/
  | natural (n : Nat)
  /-- Any other number. -/
  | number (x : Float)
  | char (c : Char)
  | string (s : String)
  /-- The optional value that is not there. -/
  | absent
  /-- An optional value that is there. -/
  | present (value : Ron)
  /-- A name that stands alone. -/
  | word (s : String)
  /-- A value directly behind `Some`, which together may also be a name. -/
  | attached (value : Ron)
  /-- Values in parentheses, behind a name or not. -/
  | tuple (name : Option String) (items : List Ron)
  /-- Fields in parentheses, behind a name or not. -/
  | record (name : Option String) (fields : List (String × Ron))
  | list (items : List Ron)
  | map (entries : List (Ron × Ron))

/-- A RON text taken apart. -/
structure RonText where
  /-- Whether an optional value may be written without `Some`. -/
  implicitSome : Bool
  value : Ron

namespace Ron

/-- A text. -/
def string? : Ron → Option String
  | string s => some s
  | _ => none

/-- A character. -/
def char? : Ron → Option Char
  | char c => some c
  | _ => none

/-- A whole number below `2 ^ 64` without a sign. -/
def natural? : Ron → Option Nat
  | natural n => some n
  | _ => none

/-- A name that stands alone. -/
def word? : Ron → Option String
  | word s => some s
  | _ => none

/-- An optional value. -/
def option? {α : Type} (implicitSome : Bool) (decode : Ron → Option α) : Ron → Option (Option α)
  | absent => some none
  | present value => (decode value).map some
  | attached value => (decode value).map some
  | value => if implicitSome then (decode value).map some else none

/-- The fields of a record that may bear a given name. Parentheses around nothing are a record
without fields. -/
def fields? (expected : String) : Ron → Option (List (String × Ron))
  | record none fields => some fields
  | record (some name) fields => if name = expected then some fields else none
  | tuple none [] => some []
  | tuple (some name) [] => if name = expected then some [] else none
  | _ => none

/-- A field with a default, which may stand only once. -/
def field? {α : Type} (fields : List (String × Ron)) (name : String) (fallback : α)
    (decode : Ron → Option α) : Option α :=
  match fields.filter fun (key, _) ↦ key == name with
  | [] => some fallback
  | [(_, value)] => decode value
  | _ => none

/-- How deep lists, records, maps and options are nested in a value. A list counts as one level and
each of its items as another; so do records and maps. -/
def nesting : Ron → Nat
  | present value | attached value => nesting value + 1
  | tuple none [] => 0
  | tuple _ items | list items => deepest items + 1
  | record _ fields => deepestField fields + 1
  | map entries => deepestEntry entries + 1
  | _ => 0
where
  /-- The nesting of the items of a list. -/
  deepest : List Ron → Nat
    | [] => 0
    | value :: values => max (nesting value + 1) (deepest values)
  /-- The nesting of the fields of a record. -/
  deepestField : List (String × Ron) → Nat
    | [] => 0
    | (_, value) :: fields => max (nesting value + 1) (deepestField fields)
  /-- The nesting of the keys and values of a map. -/
  deepestEntry : List (Ron × Ron) → Nat
    | [] => 0
    | (key, value) :: entries =>
      max (max (nesting key + 1) (nesting value + 1)) (deepestEntry entries)

/-- The deepest nesting of a text. -/
def maxNesting : Nat := 128

end Ron

end Teletype
