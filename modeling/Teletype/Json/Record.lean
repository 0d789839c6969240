import Teletype.Json.Basic
/-!
# Records in JSON

A record is written as an object with named fields or as an array of its fields in order. Unknown
members of an object are passed over, but a known one may stand only once, under one of its names.
Trailing fields of an array may be missing as far as they have defaults.
-/

namespace Teletype.Json

/-- The fields of a record as they were found, by their main names. -/
structure Record where
  /-- Whether the record was written as an array. -/
  positional : Bool
  fields : List (String × Option Json)

/-- A field: its main name and the other names it goes by. -/
structure Field where
  name : String
  aliases : List String

/-- A field with one name. -/
def Field.named (name : String) : Field := ⟨name, []⟩

/-- Whether a key names a field. -/
def Field.accepts (f : Field) (key : String) : Bool := key == f.name || f.aliases.contains key

/-- The member for a field; absent when there is none, a failure when there are several. -/
def member? (members : List (String × Json)) (f : Field) : Option (Option Json) :=
  match members.filter fun (key, _) ↦ f.accepts key with
  | [] => some none
  | [(_, value)] => some (some value)
  | _ => none

/-- The items of an array given to fields in order. -/
def assign : List Field → List Json → List (String × Option Json)
  | [], _ => []
  | f :: fs, [] => (f.name, none) :: assign fs []
  | f :: fs, item :: items => (f.name, some item) :: assign fs items

/-- Finds the fields of a record. -/
def record? (fields : List Field) : Json → Option Record
  | object members => do
    let found ← fields.mapM fun f ↦ (member? members f).map ((f.name, ·))
    some ⟨false, found⟩
  | array items =>
    if items.length ≤ fields.length then some ⟨true, assign fields items⟩ else none
  | _ => none

namespace Record

/-- What stands for a field. -/
def get? (r : Record) (name : String) : Option Json := (r.fields.lookup name).join

/-- A field that must be there. -/
def required {α : Type} (r : Record) (name : String) (decode : Json → Option α) : Option α :=
  r.get? name >>= decode

/-- A field with a default. -/
def defaulted {α : Type} (r : Record) (name : String) (fallback : α)
    (decode : Json → Option α) : Option α :=
  match r.get? name with
  | none => some fallback
  | some j => decode j

/-- An optional field with a default: it may be missing or `null`. -/
def optional {α : Type} (r : Record) (name : String) (decode : Json → Option α) :
    Option (Option α) :=
  match r.get? name with
  | none | some null => some none
  | some j => (decode j).map some

/-- An optional field without a default, which an array must not leave out. -/
def nullable {α : Type} (r : Record) (name : String) (decode : Json → Option α) :
    Option (Option α) :=
  if r.positional && (r.get? name).isNone then none else r.optional name decode

end Record

/-- A text. -/
def string? : Json → Option String
  | string s => some s
  | _ => none

/-- A truth value. -/
def bool? : Json → Option Bool
  | bool b => some b
  | _ => none

/-- A whole number below a bound, written as one. -/
def natBelow? (bound : Nat) : Json → Option Nat
  | number (.int (.ofNat n)) => if n < bound then some n else none
  | _ => none

/-- A list of decoded items. -/
def list? {α : Type} (decode : Json → Option α) : Json → Option (List α)
  | array items => items.mapM decode
  | _ => none

/-- One of several named choices: its name, or an object with the name as its only key. -/
def choice? {α : Type} (named? : String → Option α) : Json → Option α
  | string s => named? s
  | object [(s, null)] => named? s
  | _ => none

/-- One of several named choices inside a tagged record, where an empty object does for `null`. -/
def embeddedChoice? {α : Type} (named? : String → Option α) : Json → Option α
  | object [(s, object [])] => named? s
  | j => choice? named? j

/-- The tag of a variant: its name or its number. -/
inductive Tag where
  | name (s : String)
  | index (n : Nat)
  deriving DecidableEq, Repr

/-- A tag as it stands in JSON. -/
def tag? : Json → Option Tag
  | string s => some (.name s)
  | number (.int (.ofNat n)) => some (.index n)
  | _ => none

/-- Splits a variant into its tag and its fields. The tag is the member `type`, wherever it stands,
or the first item of an array. -/
def tagged? : Json → Option (Tag × Json)
  | object members =>
    match members.filter fun (key, _) ↦ key == "type" with
    | [(_, value)] => (tag? value).map (·, object (members.filter fun (key, _) ↦ key != "type"))
    | _ => none
  | array (first :: items) => (tag? first).map (·, array items)
  | _ => none

end Teletype.Json
