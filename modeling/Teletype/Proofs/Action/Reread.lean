import Mathlib.Data.Option.Basic
import Teletype.Action.Json
import Teletype.Proofs.Condition.Reread
/-!
# Decoding written actions

An action that was read reads as itself from what is written for it: steps come back as objects with
their tags by name, chains as lists, an unknown step as the unknown step, and a change of a variable
under the name that it had. Only a known name that is kept as one that is not understood would come
back as something else, and reading never gives that.
-/

namespace Teletype

/-- The kind with some name is found by its own name. -/
theorem MutationKind.ofName_name_ofName (name : String) :
    ofName (ofName name).name = ofName name := by
  cases kind : ofName name with
  | unsupported other =>
    -- a name that is not understood is its own name
    have same : name = other := by
      unfold ofName at kind
      split at kind <;> cases kind
      rfl
    rw [MutationKind.name, ← same, kind, same]
  | _ => exact ofName_name _ fun _ ↦ MutationKind.noConfusion

namespace Mutation

/-- A change of a variable is written as a record of what it says. -/
private theorem record?_toJson (m : Mutation) :
    Json.record? [.named "action", .named "value", .named "rule"] m.toJson = some ⟨false, [
      ("action", some (.string m.kind.name)),
      ("value", m.value.map Value.toJson),
      ("rule", m.rule.map Json.string)]⟩ := by
  obtain ⟨kind, value | value, rule | rule⟩ := m <;> rfl

/-- A change of a variable is read again from what is written for it. -/
theorem rereads : Json.Rereads toJson ofJson? := by
  intro j m read
  simp only [ofJson?, Option.bind_eq_bind, Option.bind_eq_some_iff, Option.pure_def,
    Option.some.injEq] at read
  obtain ⟨r, -, name, -, value, readValue, rule, readRule, rfl⟩ := read
  refine Json.then_reads (record?_toJson _) ?_
  refine Json.then_reads (a := (MutationKind.ofName name).name) rfl ?_
  refine Json.then_reads (Json.Record.optional_again (.of_forall Value.ofJson?_toJson)
    Value.toJson_ne_null readValue rfl) ?_
  refine Json.then_reads (Json.Record.optional_again Json.rereads_string
    (fun _ ↦ Json.noConfusion) readRule rfl) ?_
  rw [MutationKind.ofName_name_ofName]
  rfl

/-- Every part of a written change of a variable has a value. -/
theorem isReadable_toJson (m : Mutation) : m.toJson.isReadable = true := by
  obtain ⟨kind, _ | value, _ | rule⟩ := m <;>
    simp [toJson, Json.isReadable, Json.membersReadable, Value.isReadable_toJson]

end Mutation

namespace Action

/-- What is written for a step is read as an action of that step alone. -/
theorem read?_stepToJson (step : Step) :
    read? (stepToJson step) = (readStep? (stepToJson step)).map single := by
  cases step <;> rfl

/-- A step without branches is read again from what is written for it. -/
private theorem readStep?_of_ofBody? {kind : StepKind} {body : Json} {step : Step}
    (read : Step.ofBody? kind body = some step) : readStep? (stepToJson step) = some step := by
  cases kind <;>
    simp only [Step.ofBody?, Option.bind_eq_bind, Option.bind_eq_some_iff, Option.pure_def,
      Option.some.injEq, reduceCtorEq] at read
  case link =>
    obtain ⟨_, -, target, -, shiftKey, -, rfl⟩ := read
    cases shiftKey <;> rfl
  case dialog =>
    obtain ⟨_, -, target, -, rfl⟩ := read
    rfl
  case toggle =>
    obtain ⟨_, -, target, -, rfl⟩ := read
    rfl
  case mutate =>
    obtain ⟨_, -, target, -, m, readMutation, rfl⟩ := read
    obtain ⟨j, -, readMutation⟩ := Option.bind_eq_some_iff.mp readMutation
    change (Mutation.ofJson? m.toJson).bind _ = _
    rw [Mutation.rereads j m readMutation]
    rfl
  case unknown =>
    obtain ⟨_, -, rfl⟩ := read
    rfl

/-- A branch whose actions are read again is read again. -/
private theorem readStep?_branch {whenTrue whenFalse : Action} (test : Condition)
    (againTrue : read? whenTrue.toJson = some whenTrue)
    (againFalse : read? whenFalse.toJson = some whenFalse) :
    readStep? (stepToJson (.branch test whenTrue whenFalse)) =
      some (.branch test whenTrue whenFalse) := by
  change (Condition.read? test.toJson).bind (fun test ↦ (read? whenTrue.toJson).bind fun a ↦
    (read? whenFalse.toJson).bind fun b ↦ some (Step.branch test a b)) = _
  rw [test.read?_toJson, againTrue, againFalse]
  rfl

/-- A step written as an object is read again, if the actions under its keys are. -/
private theorem readStep?_of_ofMembers? {members : List (String × Json)}
    {whenTrue whenFalse : Option Action} {step : Step}
    (read : Step.ofMembers? members whenTrue whenFalse = some step)
    (againTrue : ∀ a, whenTrue = some a → read? a.toJson = some a)
    (againFalse : ∀ a, whenFalse = some a → read? a.toJson = some a) :
    readStep? (stepToJson step) = some step := by
  obtain ⟨⟨tag, body⟩, -, read⟩ := Option.bind_eq_some_iff.mp read
  change (if StepKind.ofTag tag = .branch then _ else _) = _ at read
  split at read
  · simp only [Option.bind_eq_bind, Option.bind_eq_some_iff, Option.pure_def,
      Option.some.injEq] at read
    obtain ⟨_, -, test, -, a, isTrue, b, isFalse, rfl⟩ := read
    exact readStep?_branch test (againTrue a isTrue) (againFalse b isFalse)
  · exact readStep?_of_ofBody? read

-- the induction goes along the reader, through all that a JSON value may nest
mutual

/-- An action is read again from what is written for it. -/
theorem read?_again (j : Json) (a : Action) (read : read? j = some a) :
    read? a.toJson = some a := by
  cases j with
  | array items =>
    rcases (Option.orElse_eq_some ..).mp read with read | ⟨-, read⟩
    · obtain ⟨steps, readSteps, rfl⟩ := Option.map_eq_some_iff.mp read
      change ((readSteps? (stepsToJson steps)).map chain <|> _) = _
      rw [readSteps?_again items steps readSteps]
      rfl
    · obtain ⟨step, readStep, rfl⟩ := Option.map_eq_some_iff.mp read
      rw [toJson, read?_stepToJson, stepOfItems?_again items step readStep]
      rfl
  | object members =>
    change (Step.ofMembers? _ _ _).map single = some a at read
    obtain ⟨step, readStep, rfl⟩ := Option.map_eq_some_iff.mp read
    rw [toJson, read?_stepToJson,
      readStep?_of_ofMembers? readStep (actionUnder?_again "true" members)
        (actionUnder?_again "false" members)]
    rfl
  | _ => cases read

/-- A step is read again from what is written for it. -/
theorem readStep?_again (j : Json) (step : Step) (read : readStep? j = some step) :
    readStep? (stepToJson step) = some step := by
  cases j with
  | array items => exact stepOfItems?_again items step read
  | object members =>
    exact readStep?_of_ofMembers? read (actionUnder?_again "true" members)
      (actionUnder?_again "false" members)
  | _ => cases read

/-- Steps are read again from what is written for each. -/
theorem readSteps?_again (items : List Json) (steps : List Step)
    (read : readSteps? items = some steps) : readSteps? (stepsToJson steps) = some steps := by
  cases items with
  | nil =>
    cases read
    rfl
  | cons item items =>
    simp only [readSteps?, Option.bind_eq_bind, Option.bind_eq_some_iff, Option.pure_def,
      Option.some.injEq] at read
    obtain ⟨step, first, steps, rest, rfl⟩ := read
    rw [stepsToJson, readSteps?, readStep?_again item step first, readSteps?_again items steps rest]
    rfl

/-- A step written as an array is read again. -/
theorem stepOfItems?_again (items : List Json) (step : Step)
    (read : stepOfItems? items = some step) : readStep? (stepToJson step) = some step := by
  cases items with
  | nil => cases read
  | cons tag body =>
    obtain ⟨tag, -, read⟩ := Option.bind_eq_some_iff.mp read
    change (if StepKind.ofTag tag = .branch then _ else _) = _ at read
    split at read
    · exact branchOfItems?_again body step read
    · exact readStep?_of_ofBody? read

/-- A branch written as an array is read again. -/
theorem branchOfItems?_again (items : List Json) (step : Step)
    (read : branchOfItems? items = some step) : readStep? (stepToJson step) = some step := by
  cases items with
  | nil => cases read
  | cons test items =>
    cases items with
    | nil => cases read
    | cons whenTrue items =>
      cases items with
      | nil => cases read
      | cons whenFalse items =>
        cases items with
        | nil =>
          simp only [branchOfItems?, Option.bind_eq_bind, Option.bind_eq_some_iff,
            Option.pure_def, Option.some.injEq] at read
          obtain ⟨test, -, a, readTrue, b, readFalse, rfl⟩ := read
          exact readStep?_branch test (read?_again whenTrue a readTrue)
            (read?_again whenFalse b readFalse)
        | cons => cases read

/-- The action under a key is read again. -/
theorem actionUnder?_again (key : String) (members : List (String × Json)) (a : Action)
    (read : actionUnder? key members = some a) : read? a.toJson = some a := by
  cases members with
  | nil => cases read
  | cons member members =>
    obtain ⟨k, value⟩ := member
    rw [actionUnder?] at read
    split at read
    · split at read
      · cases read
      · exact read?_again value a read
    · exact actionUnder?_again key members a read

end

mutual

/-- Every part of a written action has a value. -/
theorem isReadable_toJson (a : Action) : a.toJson.isReadable = true := by
  cases a with
  | chain steps => exact allReadable_stepsToJson steps
  | single step => exact isReadable_stepToJson step

/-- Every part of written steps has a value. -/
theorem allReadable_stepsToJson (steps : List Step) :
    Json.allReadable (stepsToJson steps) = true := by
  cases steps with
  | nil => rfl
  | cons step steps =>
    rw [stepsToJson, Json.allReadable, isReadable_stepToJson step, allReadable_stepsToJson steps]
    rfl

/-- Every part of a written step has a value. -/
theorem isReadable_stepToJson (step : Step) : (stepToJson step).isReadable = true := by
  cases step with
  | link target shiftKey => cases shiftKey <;> rfl
  | dialog | toggle | unknown => rfl
  | mutate target m => exact (Bool.and_true _).trans m.isReadable_toJson
  | branch test whenTrue whenFalse =>
    simp [stepToJson, Json.isReadable, Json.membersReadable, test.isReadable_toJson,
      isReadable_toJson whenTrue, isReadable_toJson whenFalse]

end

/-- An action that was decoded is decoded again from what is written for it. -/
theorem rereads : Json.Rereads toJson ofJson? := by
  intro j a read
  obtain ⟨j, -, read⟩ := Option.bind_eq_some_iff.mp read
  rw [ofJson?, Json.readable?, if_pos a.isReadable_toJson]
  exact read?_again j a read

/-- A step that was decoded is decoded again from what is written for it. -/
theorem rereads_step : Json.Rereads stepToJson stepOfJson? := by
  intro j step read
  obtain ⟨j, -, read⟩ := Option.bind_eq_some_iff.mp read
  rw [stepOfJson?, Json.readable?, if_pos (isReadable_stepToJson step)]
  exact readStep?_again j step read

/-- An action is never written as `null`. -/
theorem toJson_ne_null (a : Action) : a.toJson ≠ .null := by
  cases a with
  | chain steps => exact Json.noConfusion
  | single step => cases step <;> exact Json.noConfusion

end Action

end Teletype
