import Teletype.Action.Basic
import Teletype.Condition.Json
/-!
# Actions in JSON

Steps are tagged variants, and a tag that is not understood is the unknown step. An action is a list
of steps or else a single step, so a step written as an array is a step only because its items are
not.
-/

namespace Teletype

namespace Mutation

/-- A variable change as JSON. -/
def toJson (m : Mutation) : Json :=
  .object ([("action", .string m.kind.name)] ++
    (m.value.map fun value ↦ ("value", value.toJson)).toList ++
    (m.rule.map fun rule ↦ ("rule", .string rule)).toList)

/-- The variable change that a JSON value writes. -/
def ofJson? (j : Json) : Option Mutation := do
  let r ← Json.record? [.named "action", .named "value", .named "rule"] j
  return {
    kind := .ofName (← r.required "action" Json.string?)
    value := ← r.optional "value" Value.ofJson?
    rule := ← r.optional "rule" Json.string? }

end Mutation

/-- The kinds of steps by their tags. -/
inductive StepKind where
  | link
  | dialog
  | toggle
  | mutate
  | branch
  | unknown
  deriving DecidableEq, Repr

/-- The kind of step that a tag stands for. -/
def StepKind.ofTag : Json.Tag → StepKind
  | .name "link" | .index 0 => link
  | .name "dialog" | .name "alert" | .index 1 => dialog
  | .name "toggle" | .index 2 => toggle
  | .name "variable" | .index 3 => mutate
  | .name "condition" | .index 4 => branch
  | _ => unknown

namespace Step

/-- The step of a kind without branches that a body of fields writes. -/
def ofBody? (kind : StepKind) (body : Json) : Option Step :=
  match kind with
  | .link => do
    let r ← Json.record? [.named "target", .named "shiftKey"] body
    return link (← r.required "target" Json.string?) (← r.defaulted "shiftKey" false Json.bool?)
  | .dialog => do
    let r ← Json.record? [.named "target"] body
    return dialog (← r.required "target" Json.string?)
  | .toggle => do
    let r ← Json.record? [.named "target"] body
    return toggle (← r.required "target" Json.string?)
  | .mutate => do
    let r ← Json.record? [.named "target", .named "context"] body
    return mutate (← r.required "target" Json.string?) (← r.required "context" Mutation.ofJson?)
  | .unknown => do
    let _ ← Json.record? [] body
    return unknown
  | .branch => none

/-- The step written as an object, one of whose members is its tag, given the actions under the keys
of the two branches. -/
def ofMembers? (members : List (String × Json)) (whenTrue whenFalse : Option Action) :
    Option Step := do
  let (tag, body) ← Json.tagged? (.object members)
  let kind := StepKind.ofTag tag
  if kind = .branch then
    let r ← Json.record? [.named "condition"] body
    return branch (← r.required "condition" Condition.read?) (← whenTrue) (← whenFalse)
  else ofBody? kind body

end Step

namespace Action

mutual

/-- An action as JSON. -/
def toJson : Action → Json
  | chain steps => .array (stepsToJson steps)
  | single step => stepToJson step

/-- Several steps as JSON. -/
def stepsToJson : List Step → List Json
  | [] => []
  | step :: steps => stepToJson step :: stepsToJson steps

/-- A step as JSON. -/
def stepToJson : Step → Json
  | .link target shiftKey =>
    .object ([("type", .string "link"), ("target", .string target)] ++
      if shiftKey then [("shiftKey", .bool true)] else [])
  | .dialog target => .object [("type", .string "dialog"), ("target", .string target)]
  | .toggle target => .object [("type", .string "toggle"), ("target", .string target)]
  | .mutate target mutation =>
    .object [("type", .string "variable"), ("target", .string target),
      ("context", mutation.toJson)]
  | .branch test whenTrue whenFalse =>
    .object [("type", .string "condition"), ("condition", test.toJson),
      ("true", whenTrue.toJson), ("false", whenFalse.toJson)]
  | .unknown => .object [("type", .string "unknown")]

end

mutual

/-- The action that a JSON value writes, all of whose parts have values. -/
def read? : Json → Option Action
  | .array items => (readSteps? items).map chain <|> (stepOfItems? items).map single
  | .object members =>
    (Step.ofMembers? members (actionUnder? "true" members)
      (actionUnder? "false" members)).map single
  | _ => none
termination_by structural j => j

/-- The step that a JSON value writes, all of whose parts have values. -/
def readStep? : Json → Option Step
  | .array items => stepOfItems? items
  | .object members =>
    Step.ofMembers? members (actionUnder? "true" members) (actionUnder? "false" members)
  | _ => none
termination_by structural j => j

/-- The steps that several JSON values write. -/
def readSteps? : List Json → Option (List Step)
  | [] => some []
  | item :: items => do return (← readStep? item) :: (← readSteps? items)
termination_by structural items => items

/-- The step written as an array of its tag and its fields. -/
def stepOfItems? : List Json → Option Step
  | [] => none
  | tag :: body => do
    let kind := StepKind.ofTag (← Json.tag? tag)
    if kind = .branch then branchOfItems? body else Step.ofBody? kind (.array body)
termination_by structural items => items

/-- A branch from its test and its two actions. -/
def branchOfItems? : List Json → Option Step
  | [test, whenTrue, whenFalse] => do
    return .branch (← Condition.read? test) (← read? whenTrue) (← read? whenFalse)
  | _ => none
termination_by structural items => items

/-- The action under a key that stands in an object once. -/
def actionUnder? (key : String) : List (String × Json) → Option Action
  | [] => none
  | (k, value) :: members =>
    if k = key then
      if members.any fun (k, _) ↦ k == key then none else read? value
    else actionUnder? key members
termination_by structural members => members

end

/-- The action that a JSON value writes. -/
def ofJson? (j : Json) : Option Action := j.readable? >>= read?

/-- The step that a JSON value writes. -/
def stepOfJson? (j : Json) : Option Step := j.readable? >>= readStep?

end Action

end Teletype
