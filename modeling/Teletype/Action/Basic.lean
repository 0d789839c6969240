import Teletype.Condition.Basic
/-!
# Actions

What a link or a command does: a single step, or a chain of steps carried out in order. A branch
chooses one of two actions by a condition, so actions nest without bound.
-/

namespace Teletype

/-- What a step does to a variable. Names that are not understood are kept, to be reported when the
step is carried out. -/
inductive MutationKind where
  | set
  | toggle
  | count (counting : Counting)
  | concatenate
  | unsupported (name : String)
  deriving DecidableEq, Repr

/-- A change of one variable. The rule generates the value of `set` when no value is given, or says
where `concatenate` puts its text. -/
structure Mutation where
  kind : MutationKind
  value : Option Value
  rule : Option String

mutual

/-- One step of an action. -/
inductive Step where
  | link (target : String) (shiftKey : Bool)
  | dialog (target : String)
  | toggle (target : String)
  | mutate (target : String) (mutation : Mutation)
  | branch (test : Condition) (whenTrue whenFalse : Action)
  | unknown

/-- A single step or a chain of steps. -/
inductive Action where
  | chain (steps : List Step)
  | single (step : Step)

end

/-- The steps of an action in order. -/
def Action.steps : Action → List Step
  | chain steps => steps
  | single step => [step]

/-- The step that changes a variable in a way that needs no value. -/
def Step.change (target : String) (kind : MutationKind) : Step := .mutate target ⟨kind, none, none⟩

/-- The step that gives a variable a value. -/
def Step.assign (target : String) (value : Value) : Step := .mutate target ⟨.set, some value, none⟩

/-- The action that shows a screen. -/
def Action.link (target : String) : Action := single (.link target false)

/-- The action that opens a dialog. -/
def Action.dialog (target : String) : Action := single (.dialog target)

namespace MutationKind

/-- The name of a kind of change. -/
def name : MutationKind → String
  | set => "set"
  | toggle => "toggle"
  | count counting => counting.word
  | concatenate => "concatenate"
  | unsupported name => name

/-- The kind of change with a given name. -/
def ofName : String → MutationKind
  | "set" => set
  | "toggle" => toggle
  | "increment" => count .increment
  | "decrement" => count .decrement
  | "concatenate" => concatenate
  | name => unsupported name

/-- Every kind with a name that is understood is found by it. -/
theorem ofName_name (kind : MutationKind) (h : ∀ name, kind ≠ unsupported name) :
    ofName kind.name = kind := by
  cases kind with
  | count counting => cases counting <;> rfl
  | unsupported name => exact absurd rfl (h name)
  | _ => rfl

end MutationKind

end Teletype
