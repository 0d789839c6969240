import Teletype.Condition.Basic
import Teletype.Value.Json
/-!
# Conditions in JSON

Operands are tagged variants, comparisons are records, and the logical forms are objects with the
key `and`, `or` or `not`. The forms are tried in that order, the first that fits counts.
-/

namespace Teletype

namespace Operand

/-- An operand as JSON. -/
def toJson : Operand → Json
  | named name => .object [("type", .string "variable"), ("target", .string name)]
  | literal value => .object [("type", .string "value"), ("value", value.toJson)]

/-- The operand that a JSON value writes. -/
def ofJson? (j : Json) : Option Operand := do
  let (tag, body) ← j.tagged?
  match tag with
  | .name "variable" | .index 0 =>
    let r ← Json.record? [.named "target"] body
    return named (← r.required "target" Json.string?)
  | .name "value" | .index 1 =>
    let r ← Json.record? [.named "value"] body
    return literal (← r.required "value" Value.ofJson?)
  | _ => none

end Operand

namespace Comparator

/-- The sign or word for a comparator. -/
def name : Comparator → String
  | equal => "="
  | notEqual => "!="
  | greater => ">"
  | less => "<"
  | atLeast => ">="
  | atMost => "<="
  | contains => "contains"
  | lacks => "not contains"
  | startsWith => "startswith"
  | endsWith => "endswith"

/-- The comparator with a given sign or word. -/
def named? (s : String) : Option Comparator :=
  if s = "not-contains" then some lacks else every.find? fun op ↦ op.name == s

end Comparator

namespace Comparison

/-- A comparison as JSON. -/
def toJson (c : Comparison) : Json :=
  .object ([("op", .string c.op.name), ("left", c.left.toJson), ("right", c.right.toJson)] ++
    if c.ignoreCase then [("caseInsensitive", .bool true)] else [])

/-- The comparison that a JSON value writes. -/
def ofJson? (j : Json) : Option Comparison := do
  let r ← Json.record?
    [.named "op", .named "left", .named "right", .named "caseInsensitive"] j
  return {
    op := ← r.required "op" (Json.choice? Comparator.named?)
    left := ← r.required "left" Operand.ofJson?
    right := ← r.required "right" Operand.ofJson?
    ignoreCase := ← r.defaulted "caseInsensitive" false Json.bool? }

end Comparison

namespace Condition

mutual

/-- A condition as JSON. -/
def toJson : Condition → Json
  | all parts => .object [("and", .array (toJsons parts))]
  | any parts => .object [("or", .array (toJsons parts))]
  | negation part => .object [("not", part.toJson)]
  | comparison c => c.toJson

/-- Several conditions as JSON. -/
def toJsons : List Condition → List Json
  | [] => []
  | part :: parts => part.toJson :: toJsons parts

end

mutual

/-- The condition that a JSON value writes, all of whose parts have values. -/
def read? : Json → Option Condition
  | .object members =>
    (partsUnder? "and" members).map all <|> (partsUnder? "or" members).map any <|>
      (partUnder? "not" members).map negation <|>
      (Comparison.ofJson? (.object members)).map comparison
  | j => (Comparison.ofJson? j).map comparison

/-- The conditions in a JSON array. -/
def readParts? : Json → Option (List Condition)
  | .array items => readAll? items
  | _ => none

/-- The conditions that several JSON values write. -/
def readAll? : List Json → Option (List Condition)
  | [] => some []
  | item :: items => do return (← read? item) :: (← readAll? items)

/-- The conditions under a key that stands in an object once. -/
def partsUnder? (key : String) : List (String × Json) → Option (List Condition)
  | [] => none
  | (k, value) :: members =>
    if k = key then
      if members.any fun (k, _) ↦ k == key then none else readParts? value
    else partsUnder? key members

/-- The condition under a key that stands in an object once. -/
def partUnder? (key : String) : List (String × Json) → Option Condition
  | [] => none
  | (k, value) :: members =>
    if k = key then
      if members.any fun (k, _) ↦ k == key then none else read? value
    else partUnder? key members

end

/-- The condition that a JSON value writes. -/
def ofJson? (j : Json) : Option Condition := j.readable? >>= read?

end Condition

end Teletype
