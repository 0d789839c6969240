import Teletype.Command.Dispatch
import Teletype.Document.Basic
/-!
# Where a document leads

The steps a document may carry out, however deep they stand in branches; the variables it declares
or changes; and the screens that links and commands lead to from the first one.
-/

namespace Teletype

namespace Action

mutual

/-- Every step of an action, those of both branches behind the branch itself. -/
def everyStep : Action → List Step
  | chain steps => everyStepOfAll steps
  | single step => everyStepOf step

/-- Every step of several steps. -/
def everyStepOfAll : List Step → List Step
  | [] => []
  | step :: steps => everyStepOf step ++ everyStepOfAll steps

/-- A step and those of its branches. -/
def everyStepOf : Step → List Step
  | .branch test whenTrue whenFalse =>
    .branch test whenTrue whenFalse :: everyStep whenTrue ++ everyStep whenFalse
  | step => [step]

end

end Action

namespace Step

/-- The screen that a step links to. -/
def linkTarget? : Step → Option String
  | link target _ => some target
  | _ => none

/-- The variable that a step changes. -/
def mutationTarget? : Step → Option String
  | mutate target _ => some target
  | _ => none

end Step

namespace Content

/-- The actions that a player can start at an item. -/
def actions : Content → List Action
  | link _ l _ => l.base :: l.shift.toList
  | prompt p => p.commands.map Command.action
  | _ => []

/-- The variable that an item changes by itself. -/
def mutationTarget? : Content → Option String
  | mutate target _ => some target
  | _ => none

end Content

namespace Item

/-- Every step that a player can start at an item. -/
def everyStep (item : Item) : List Step := item.content.actions.flatMap Action.everyStep

end Item

namespace Screen

/-- The screens that the links and commands of a screen lead to. -/
def exits (s : Screen) : List String :=
  s.items.flatMap fun item ↦ item.everyStep.filterMap Step.linkTarget?

end Screen

/-- The nodes among `remaining` that lead from the pending ones. Every found node leaves the
remaining ones, so the search ends. -/
def reach (next : String → List String) (remaining pending : List String) : List String :=
  match _found : pending.find? remaining.contains with
  | none => []
  | some node => node :: reach next (remaining.erase node) (next node ++ pending)
termination_by remaining.length
decreasing_by
  have member : node ∈ remaining := List.contains_iff_mem.mp (List.find?_some _found)
  have := List.length_erase_of_mem member
  have := List.length_pos_of_mem member
  omega

namespace Document

/-- The screens that a screen leads to, by id. -/
def exits (d : Document) (id : String) : List String := ((d.screen? id).map Screen.exits).getD []

/-- The ids of the screens that the first screen leads to, itself among them. -/
def reachable (d : Document) : List String :=
  reach d.exits (d.screens.map Screen.id) (d.startScreen?.map Screen.id).toList

/-- The ids of the screens that nothing leads to, in order. -/
def unreachable (d : Document) : List String :=
  (d.screens.map Screen.id).filter fun id ↦ !d.reachable.contains id

/-- The variables that a document declares or changes, and that of the last command. -/
def knownVariables (d : Document) : List String :=
  d.declarations.map Declaration.id ++ [lastCommandName] ++
    d.items.flatMap fun item ↦
      item.content.mutationTarget?.toList ++ item.everyStep.filterMap Step.mutationTarget?

end Document

end Teletype
