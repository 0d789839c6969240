import Teletype.Action.Run
import Teletype.Command.Match
/-!
# Dispatching input

A line of input runs the first command it answers to. Prompts that allow it are preceded by the
commands of the host. Before the action runs the input is kept in a reserved variable; input that
answers to nothing changes nothing.
-/

namespace Teletype

/-- The variable that holds the last input that answered to a command. -/
def lastCommandName : String := "_lastCommand"

/-- What came of a line of input. -/
structure DispatchOutcome where
  matched : Bool
  signals : List Signal
  deriving DecidableEq, Repr

namespace DispatchOutcome

/-- Nothing answered. -/
def unhandled : DispatchOutcome := ⟨false, []⟩

/-- The id that the last signal names. -/
def target? (o : DispatchOutcome) : Option String := o.signals.getLast?.map Signal.target

end DispatchOutcome

/-- The commands of the host, and the patterns read so far. -/
structure Dispatcher where
  cache : PatternCache
  hostCommands : List Command

/-- Runs a command on an input. -/
def Command.run (c : Command) (input : String) : Work DispatchOutcome := do
  World.set lastCommandName (.text input)
  let signals ← c.action.perform (some input)
  return ⟨true, signals⟩

namespace Dispatcher

/-- A dispatcher that has read no patterns yet. -/
def ofCommands (hostCommands : List Command) : Dispatcher := ⟨∅, hostCommands⟩

/-- The first of several commands that an input answers to. -/
def find? (d : Dispatcher) (commands : List Command) (input : String) :
    Option Command × Dispatcher :=
  let (found, cache) := d.cache.find? input commands
  (found, { d with cache })

/-- The command that an input runs at a prompt. -/
def choose (d : Dispatcher) (p : Prompt) (input : String) : Option Command × Dispatcher :=
  if p.allowMetaCommands then
    match d.find? d.hostCommands input with
    | (some c, d) => (some c, d)
    | (none, d) => d.find? p.commands input
  else d.find? p.commands input

/-- Runs an input at a prompt. -/
def dispatch (d : Dispatcher) (p : Prompt) (input : String) (w : World) :
    EStateM.Result ActionError World DispatchOutcome × Dispatcher :=
  match d.choose p input with
  | (some c, d) => (c.run input w, d)
  | (none, d) => (.ok .unhandled w, d)

end Dispatcher

end Teletype
