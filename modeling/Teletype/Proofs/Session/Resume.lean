import Teletype.Proofs.Reveal.Sequence
import Teletype.Proofs.Session.Failure
/-!
# Playing with another way to go on

Showing a screen and waiting for it let the reveal go on, and they do so by one program. To say of
a part of that program that it never runs is to say that another one in its place makes no
difference. So each way of playing is given here with the program that lets the reveal go on as a
parameter; with the one that there is, it is what it was.
-/

namespace Teletype

namespace ScreenRun

/-- A passage asks only for the measures of its own items. -/
theorem pass_congr {ε σ : Type} {measure other : String → EStateM ε σ Nat}
    {items : List ItemProgress} (h : ∀ item ∈ items, measure item.id = other item.id) (world : σ) :
    pass measure items world = pass other items world := by
  induction items generalizing world with
  | nil => rfl
  | cons item items ih =>
    obtain ⟨first, rest⟩ := List.forall_mem_cons.mp h
    simp only [pass, first, ih rest]

/-- An advance asks only for the measures of the items of the reveal. -/
theorem advance_congr {ε σ : Type} {measure other : String → EStateM ε σ Nat} {run : ScreenRun}
    (h : ∀ item ∈ run.items, measure item.id = other item.id) (world : σ) :
    run.advance measure world = run.advance other world := by
  cases ha : run.active with
  | some place => rw [advance_of_active measure ha, advance_of_active other ha]
  | none => rw [advance_of_idle measure ha, advance_of_idle other ha, pass_congr h]

end ScreenRun

namespace Session

/-! ## Going on with something else for want of a screen or an item -/

/-- The length of an item whose turn has come, by a program of its own for an item that the screen
does not have. -/
def measureOr (absent : String → EStateM SessionError World Nat) (s : Session) (screen : Screen)
    (id : String) : EStateM SessionError World Nat :=
  if (screen.item? id).isSome then s.measure screen id else absent id

/-- Lets the reveal come to its next items, by programs of their own for a screen that the document
does not have and for an item that the screen does not have. -/
def advanceOr (lost : Play (List LifecycleEvent))
    (absent : String → EStateM SessionError World Nat) : Play (List LifecycleEvent) := fun s ↦
  match s.run with
  | none => .ok [] s
  | some run =>
    match s.document.screen? run.screen with
    | none => lost s
    | some screen =>
      let (outcome, run, world) := run.advance (s.measureOr absent screen) s.world
      let s := { s with run := some run, world }
      match outcome with
      | .ok events => .ok events s
      | .error e => .error e s

/-- The measure of an item that the screen has does not ask for anything else. -/
theorem measureOr_of_isSome {absent : String → EStateM SessionError World Nat} {s : Session}
    {screen : Screen} {id : String} (h : (screen.item? id).isSome = true) :
    s.measureOr absent screen id = s.measure screen id := by
  rw [measureOr, if_pos h]

/-- What stands in for want of a screen or an item is to report nothing and to have no length. -/
theorem advance_eq_advanceOr : advance = advanceOr (pure []) fun _ ↦ pure 0 := by
  funext s
  have same : ∀ screen, s.measure screen = s.measureOr (fun _ ↦ pure 0) screen := by
    intro screen
    funext id w
    unfold measureOr
    split
    · rfl
    · next h => exact measure_of_none (Option.not_isSome_iff_eq_none.mp h) w
  simp only [advance, advanceOr, same]
  rfl

/-- Where the screen and all of its items are there, nothing else is asked for. -/
theorem advanceOr_of_found {lost : Play (List LifecycleEvent)}
    {absent : String → EStateM SessionError World Nat} {s : Session} {run : ScreenRun}
    {screen : Screen} (shown : s.run = some run)
    (found : s.document.screen? run.screen = some screen)
    (items : ∀ item ∈ run.items, (screen.item? item.id).isSome = true) :
    advanceOr lost absent s = advance s := by
  have same : run.advance (s.measureOr absent screen) s.world =
      run.advance (s.measure screen) s.world :=
    ScreenRun.advance_congr (fun item member ↦ measureOr_of_isSome (items item member)) s.world
  cases ho : (run.advance (s.measure screen) s.world).1 <;>
    simp only [advanceOr, advance, shown, found, same, ho]

section Via

variable (resume : Play (List LifecycleEvent))

/-! ## Letting the reveal go on by a given program -/

/-- Shows a screen. -/
def activateVia (id : String) : Play (List LifecycleEvent) := do
  let s ← get
  match s.document.screen? id with
  | none => throw (.unknownScreen id)
  | some screen =>
    let entries := screen.revealEntries s.document.config.speed
    modify fun s ↦ { s with run := some (.start id entries) }
    work (Mutation.applyAll screen.immediateMutations)
    let events ← resume
    return ScreenRun.startEvents entries ++ events

/-- Lets time pass for the screen that shows. -/
def tickByVia (elapsed : Duration) : Play (List LifecycleEvent) := do
  let s ← get
  match s.run with
  | none => return []
  | some run =>
    let (run, shown) := run.tick elapsed
    modify fun s ↦ { s with run := some run }
    let events ← resume
    return shown ++ events

/-- Shows active items fully, as often as the fuel allows. -/
def skipStepsVia : Nat → Play (List LifecycleEvent)
  | 0 => return []
  | fuel + 1 => do
    let s ← get
    match s.run with
    | none => return []
    | some run =>
      if run.isDone then return []
      else
        let (run, shown) := run.finishActive
        modify fun s ↦ { s with run := some run }
        let events ← resume
        let rest ← skipStepsVia fuel
        return shown ++ events ++ rest

/-- Goes where signals lead. -/
def followVia (signals : List Signal) : Play Unit := do
  let s ← get
  match (Signal.dialogs signals).find? fun id ↦ (s.document.dialog? id).isNone with
  | some id => throw (.unknownDialog id)
  | none =>
    match (Signal.dialogs signals).getLast? with
    | some id => modify fun s ↦ { s with dialog := some id }
    | none => pure ()
    match Signal.lastScreen? signals with
    | some screen =>
      let _ ← activateVia resume screen
      return ()
    | none => return ()

end Via

/-- Showing active items fully is what it is with the program that lets the reveal go on. -/
theorem skipStepsVia_advance (fuel : Nat) : skipStepsVia advance fuel = skipSteps fuel := by
  induction fuel with
  | zero => rfl
  | succ fuel ih =>
    rw [skipStepsVia, ih]
    rfl

end Session

/-- Carries out a request. -/
def Request.playVia (resume : Play (List LifecycleEvent)) (r : Request) : Play (List Signal) := do
  let signals ← r.act
  Session.followVia resume signals
  return signals

/-- Makes a call. -/
def Call.playVia (resume : Play (List LifecycleEvent)) : Call → Play (List LifecycleEvent)
  | begin => do Session.activateVia resume (← get).start
  | activate id => Session.activateVia resume id
  | request r => do
    let _ ← r.playVia resume
    return []
  | tick => do Session.tickByVia resume (← get).tickInterval
  | tickBy elapsed => Session.tickByVia resume elapsed
  | skip => do
    let s ← get
    Session.skipStepsVia resume ((s.run.map ScreenRun.pending).getD 0 + 1)
  | c => c.play

/-- A call is what it is with the program that lets the reveal go on. -/
theorem Call.playVia_advance (c : Call) : c.playVia Session.advance = c.play := by
  cases c with
  | request r =>
    rw [playVia, play, r.play_eq]
    rfl
  | skip => simp only [playVia, play, Session.skip, Session.skipStepsVia_advance]
  | begin | activate | tick | tickBy | flip | dismiss | resize | restore | write => rfl

end Teletype
