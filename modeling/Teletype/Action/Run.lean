import Teletype.Action.Toggle
import Teletype.Rule
/-!
# Carrying out actions

An action changes variables, toggles and the random source step by step. Where to go next is not
done here but reported as signals when the whole action has been carried out. A step that fails ends
the action; what was changed before it stays changed, and no signal is reported.
-/

namespace Teletype

/-- Where an action wants to go. -/
inductive Signal where
  | navigate (screen : String)
  | dialog (id : String)
  deriving DecidableEq, Repr

/-- The id a signal names. -/
def Signal.target : Signal → String
  | navigate screen => screen
  | dialog id => id

/-- What actions change. -/
structure World where
  store : Store
  toggles : ToggleBoard
  random : Random.Source

/-- Why an action fails. -/
inductive ActionError where
  | store (e : StoreError)
  | rule (e : RuleError)
  /-- A kind of variable change that is not understood. -/
  | unknownMutation (name : String)
  /-- A kind of step that is not understood. -/
  | unknownStep
  deriving DecidableEq, Repr

/-- What is said about an action that fails. -/
def ActionError.message : ActionError → String
  | store e => "store error: " ++ e.message
  | rule e => "rule error: " ++ e.message
  | unknownMutation name => "unknown action kind: " ++ name
  | unknownStep => "unknown action kind: unrecognized action type"

/-- Work on a world that may fail and then leaves the world as it was at the failure. -/
abbrev Work := EStateM ActionError World

namespace World

/-- Gives a variable a value. -/
def set (name : String) (value : Value) : Work Unit :=
  modify fun w ↦ { w with store := w.store.set name value }

/-- Makes a value up by a rule. -/
def generate (rule : String) : Work Value := fun w ↦
  match Rule.generate rule w.random with
  | (.ok value, random) => .ok value { w with random }
  | (.error e, random) => .error (.rule e) { w with random }

/-- Counts a variable up or down. -/
def count (counting : Counting) (name : String) (amount : Float) : Work Unit := fun w ↦
  match w.store.count counting name amount with
  | .ok store => .ok () { w with store }
  | .error e => .error (.store e) w

end World

namespace Mutation

/-- The amount to count by: a number given as the value, or one. -/
def amount (m : Mutation) : Float :=
  match m.value with
  | some (.number x) => x
  | _ => 1

/-- The text to join: the display text of the value, or the last command. -/
def joinedText (m : Mutation) (lastCommand : Option String) : String :=
  match m.value with
  | some value => value.display
  | none => lastCommand.getD ""

/-- Whether text is joined in front. -/
def prepends (m : Mutation) : Bool := m.rule == some "pre" || m.rule == some "prepend"

/-- Changes a variable. A variable is set to the given value, or to one made up by the rule, or to
the last command. -/
def apply (m : Mutation) (target : String) (lastCommand : Option String) : Work Unit :=
  match m.kind with
  | .set =>
    match m.value, m.rule with
    | some value, _ => World.set target value
    | none, some rule => do World.set target (← World.generate rule)
    | none, none => World.set target (.text (lastCommand.getD ""))
  | .toggle => modify fun w ↦ { w with store := w.store.toggle target }
  | .count counting => World.count counting target m.amount
  | .concatenate => modify fun w ↦
      { w with store := w.store.concatenate target (m.joinedText lastCommand) m.prepends }
  | .unsupported name => throw (.unknownMutation name)

end Mutation

namespace Action

mutual

/-- Carries out an action and reports its signals. -/
def perform (lastCommand : Option String) : Action → Work (List Signal)
  | chain steps => performAll lastCommand steps
  | single step => performStep lastCommand step

/-- Carries out steps in order. -/
def performAll (lastCommand : Option String) : List Step → Work (List Signal)
  | [] => pure []
  | step :: steps => do
    let first ← performStep lastCommand step
    let rest ← performAll lastCommand steps
    return first ++ rest

/-- Carries out a step. A branch looks at the store as the steps before it left it, and a toggle
that does not exist is passed over. -/
def performStep (lastCommand : Option String) : Step → Work (List Signal)
  | .link target _ => pure [.navigate target]
  | .dialog target => pure [.dialog target]
  | .toggle target => do
    modify fun w ↦ { w with toggles := w.toggles.flip target }
    return []
  | .mutate target mutation => do
    mutation.apply target lastCommand
    return []
  | .branch test whenTrue whenFalse => do
    let w ← get
    if test.holds w.store then perform lastCommand whenTrue else perform lastCommand whenFalse
  | .unknown => throw .unknownStep

end

end Action

end Teletype
