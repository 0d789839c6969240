import Teletype.Session.Basic
/-!
# Playing

Screens are shown one at a time. Showing a screen starts its reveal; changes of variables that stand
among its items are made when the reveal comes to them, or right away when they stand outside of it.
Commands and links run actions, whose signals lead on.
-/

namespace Teletype

/-- What a reveal knows of the items of a screen beforehand. An item without a speed of its own
takes that of the document. -/
def Screen.revealEntries (speed : Option Nat) (screen : Screen) : List RevealEntry :=
  screen.items.map fun item ↦
    { id := item.id
      onLoad := item.onLoad
      speed := (item.content.options?.bind TextOptions.speed).or speed }

/-- The changes of variables that stand outside of the reveal, in order. -/
def Screen.immediateMutations (screen : Screen) : List (String × Mutation) :=
  screen.items.filterMap fun item ↦
    match item.onLoad, item.content with
    | false, .mutate target mutation => some (target, mutation)
    | _, _ => none

/-- Makes changes of variables one after another. -/
def Mutation.applyAll : List (String × Mutation) → Work Unit
  | [] => pure ()
  | (target, mutation) :: rest => do
    mutation.apply target none
    Mutation.applyAll rest

/-- The number of items that are not done yet. -/
def ScreenRun.pending (run : ScreenRun) : Nat := run.items.countP fun item ↦ item.state != .done

/-- The last screen that signals lead to. -/
def Signal.lastScreen? (signals : List Signal) : Option String :=
  (signals.filterMap fun
    | .navigate screen => some screen
    | .dialog _ => none).getLast?

/-- The dialogs that signals open, in order. -/
def Signal.dialogs (signals : List Signal) : List String :=
  signals.filterMap fun
    | .navigate _ => none
    | .dialog id => some id

namespace Session

/-- The length of an item whose turn has come. A change of a variable is made and has no length. -/
def measure (s : Session) (screen : Screen) (id : String) :
    EStateM SessionError World Nat := fun w ↦
  match screen.item? id with
  | none => .ok 0 w
  | some item =>
    match item.content with
    | .mutate target mutation =>
      match mutation.apply target none w with
      | .ok _ w => .ok 0 w
      | .error e w => .error (.action e) w
    | _ =>
      match (s.stage w).layout item with
      | .ok text => .ok text.length w
      | .error e => .error (.format e) w

/-- Lets the reveal come to its next items until one needs time. -/
def advance : Play (List LifecycleEvent) := fun s ↦
  match s.run with
  | none => .ok [] s
  | some run =>
    match s.document.screen? run.screen with
    | none => .ok [] s
    | some screen =>
      let (outcome, run, world) := run.advance (s.measure screen) s.world
      let s := { s with run := some run, world }
      match outcome with
      | .ok events => .ok events s
      | .error e => .error e s

/-- Shows a screen. The reveal of the one before is given up. -/
def activate (id : String) : Play (List LifecycleEvent) := do
  let s ← get
  match s.document.screen? id with
  | none => throw (.unknownScreen id)
  | some screen =>
    let entries := screen.revealEntries s.document.config.speed
    modify fun s ↦ { s with run := some (.start id entries) }
    work (Mutation.applyAll screen.immediateMutations)
    let events ← advance
    return ScreenRun.startEvents entries ++ events

/-- Shows the screen to begin with. -/
def begin : Play (List LifecycleEvent) := do activate (← get).start

/-- Lets time pass for the screen that shows. -/
def tickBy (elapsed : Duration) : Play (List LifecycleEvent) := do
  let s ← get
  match s.run with
  | none => return []
  | some run =>
    let (run, shown) := run.tick elapsed
    modify fun s ↦ { s with run := some run }
    let events ← advance
    return shown ++ events

/-- Lets the time of one tick pass. -/
def tick : Play (List LifecycleEvent) := do tickBy (← get).tickInterval

/-- Shows active items fully, one after another, as often as the fuel allows. -/
def skipSteps : Nat → Play (List LifecycleEvent)
  | 0 => return []
  | fuel + 1 => do
    let s ← get
    match s.run with
    | none => return []
    | some run =>
      if run.isDone then return []
      else
        let (run, shown) := run.finishActive
        modify fun s ↦ { s with run := some run }
        let events ← advance
        let rest ← skipSteps fuel
        return shown ++ events ++ rest

/-- Ends the reveal of the screen that shows. Every step but the first finishes an item. -/
def skip : Play (List LifecycleEvent) := do
  let s ← get
  skipSteps ((s.run.map ScreenRun.pending).getD 0 + 1)

/-- Goes where signals lead: opens the last dialog and shows the last screen. Nothing is opened when
one of the dialogs does not exist. -/
def follow (signals : List Signal) : Play Unit := do
  let s ← get
  match (Signal.dialogs signals).find? fun id ↦ (s.document.dialog? id).isNone with
  | some id => throw (.unknownDialog id)
  | none =>
    match (Signal.dialogs signals).getLast? with
    | some id => modify fun s ↦ { s with dialog := some id }
    | none => pure ()
    match Signal.lastScreen? signals with
    | some screen =>
      let _ ← activate screen
      return ()
    | none => return ()

/-- Runs an input at a prompt. -/
def dispatchAt (p : Prompt) (input : String) : Play DispatchOutcome := fun s ↦
  let (result, dispatcher) := s.dispatcher.dispatch p input s.world
  match result with
  | .ok outcome world => .ok outcome { s with dispatcher, world }
  | .error e world => .error (.action e) { s with dispatcher, world }

/-- Runs an input on a screen and goes where it leads. Without a prompt nothing answers. -/
def dispatch (screenId input : String) : Play DispatchOutcome := do
  let s ← get
  match s.document.screen? screenId with
  | none => throw (.unknownScreen screenId)
  | some screen =>
    match screen.prompt? with
    | none => return .unhandled
    | some p =>
      let outcome ← dispatchAt p input
      follow outcome.signals
      return outcome

/-- Runs an input on the screen that shows. -/
def submit (input : String) : Play DispatchOutcome := do
  match (← get).screenId? with
  | some id => dispatch id input
  | none => throw .noActiveScreen

/-- Follows a link of the screen that shows. -/
def followLink (id : String) (shift : Bool) : Play (List Signal) := do
  let s ← get
  match s.item id with
  | .error e => throw e
  | .ok item =>
    match item.content with
    | .link _ actions _ =>
      let signals ← work ((actions.forClick shift).perform none)
      follow signals
      return signals
    | _ => throw (s.noItem id)

end Session

end Teletype
