import Teletype.Reveal.Time
/-!
# Revealing a screen

The items of a screen go from ready through active to done. Those that take part in the reveal
become active one at a time, in order, each when the one before is done; the others are done from
the start. Only ticks make time pass.
-/

namespace Teletype

/-- How far an item has come. -/
inductive LoadState where
  | unloaded
  | ready
  | active
  | done
  deriving DecidableEq, Repr

/-- What happens to an item. -/
inductive LifecycleEvent where
  | ready (id : String)
  | activated (id : String)
  | revealed (id : String) (count : Nat)
  | done (id : String)
  deriving DecidableEq, Repr

/-- What a reveal knows of an item beforehand. -/
structure RevealEntry where
  id : String
  onLoad : Bool
  speed : Option Nat
  deriving DecidableEq, Repr

/-- An item in the course of the reveal. -/
structure ItemProgress where
  id : String
  state : LoadState
  revealed : Nat
  length : Nat
  speed : Option Nat
  elapsed : Duration
  deriving DecidableEq, Repr

/-- The reveal of a screen. -/
structure ScreenRun where
  screen : String
  items : List ItemProgress
  /-- The place of the active item. -/
  active : Option Nat
  deriving DecidableEq, Repr

/-- The characters shown after some time, when each takes a number of milliseconds. -/
def revealCount (elapsed : Duration) (length : Nat) (speed : Option Nat) : Nat :=
  match speed with
  | some (delay + 1) => min (elapsed.millis / (delay + 1)) length
  | _ => length

namespace RevealEntry

/-- The item before anything is shown of it. -/
def progress (e : RevealEntry) : ItemProgress where
  id := e.id
  state := if e.onLoad then .ready else .done
  revealed := 0
  length := 0
  speed := e.speed
  elapsed := .zero

/-- What happens to an item when its screen starts. -/
def events (e : RevealEntry) : List LifecycleEvent :=
  .ready e.id :: if e.onLoad then [] else [.done e.id]

end RevealEntry

namespace ItemProgress

/-- Whether an item of a length is shown at once. -/
def isInstant (item : ItemProgress) (length : Nat) : Bool :=
  (item.speed.getD 0 == 0) || length == 0

/-- An item that becomes active with a length, which may be done at once. -/
def activate (item : ItemProgress) (length : Nat) : ItemProgress :=
  if item.isInstant length then { item with state := .done, length, revealed := length }
  else { item with state := .active, length }

/-- What happens to an item that becomes active with a length. -/
def activationEvents (item : ItemProgress) (length : Nat) : List LifecycleEvent :=
  .activated item.id ::
    if item.isInstant length then
      (if length = 0 then [] else [.revealed item.id length]) ++ [.done item.id]
    else []

/-- An item after more time has passed. -/
def tick (item : ItemProgress) (elapsed : Duration) : ItemProgress :=
  let elapsed := item.elapsed.add elapsed
  let revealed := revealCount elapsed item.length item.speed
  { item with
    elapsed, revealed
    state := if item.length ≤ revealed then .done else item.state }

/-- An item that is fully shown. -/
def finish (item : ItemProgress) : ItemProgress :=
  { item with revealed := item.length, state := .done }

end ItemProgress

namespace ScreenRun

/-- The reveal of a screen before anything is active. -/
def start (screen : String) (entries : List RevealEntry) : ScreenRun :=
  ⟨screen, entries.map RevealEntry.progress, none⟩

/-- What happens when a screen starts. -/
def startEvents (entries : List RevealEntry) : List LifecycleEvent :=
  entries.flatMap RevealEntry.events

/-- The first item with an id. -/
def item? (run : ScreenRun) (id : String) : Option ItemProgress :=
  run.items.find? fun item ↦ item.id == id

/-- How far an item has come. -/
def state? (run : ScreenRun) (id : String) : Option LoadState :=
  (run.item? id).map ItemProgress.state

/-- The active item. -/
def active? (run : ScreenRun) : Option ItemProgress := run.active.bind fun place ↦ run.items[place]?

/-- Whether every item is done. -/
def isDone (run : ScreenRun) : Bool := run.items.all fun item ↦ item.state == .done

/-- The result of going through items: what happened, unless measuring failed, the items, and the
place of the one that became active. -/
structure Passage (ε σ : Type) where
  outcome : Except ε (List LifecycleEvent)
  items : List ItemProgress
  active : Option Nat
  world : σ

/-- Adds an item and its events in front of a passage through the items after it. -/
def Passage.after {ε σ : Type} (item : ItemProgress) (events : List LifecycleEvent)
    (p : Passage ε σ) : Passage ε σ where
  outcome := p.outcome.map (events ++ ·)
  items := item :: p.items
  active := p.active.map (· + 1)
  world := p.world

/-- Goes through the items from left to right. A ready item is measured when its turn comes and
becomes active; one that needs time ends the passage, and so does a measure that fails. -/
def pass {ε σ : Type} (measure : String → EStateM ε σ Nat) :
    List ItemProgress → σ → Passage ε σ
  | [], world => ⟨.ok [], [], none, world⟩
  | item :: items, world =>
    if item.state ≠ .ready then (pass measure items world).after item []
    else
      match measure item.id world with
      | .error e world => ⟨.error e, item :: items, none, world⟩
      | .ok length world =>
        if item.isInstant length then
          (pass measure items world).after (item.activate length) (item.activationEvents length)
        else
          ⟨.ok (item.activationEvents length), item.activate length :: items, some 0, world⟩

/-- Activates ready items in order until one needs time. Nothing happens while an item is active.
When a measure fails the items activated before it stay as they are. -/
def advance {ε σ : Type} (measure : String → EStateM ε σ Nat) (run : ScreenRun) (world : σ) :
    Except ε (List LifecycleEvent) × ScreenRun × σ :=
  match run.active with
  | some _ => (.ok [], run, world)
  | none =>
    let p := pass measure run.items world
    (p.outcome, { run with items := p.items, active := p.active }, p.world)

/-- Lets time pass for the active item. Time left over when it is done is lost. -/
def tick (run : ScreenRun) (elapsed : Duration) : ScreenRun × List LifecycleEvent :=
  match run.active, run.active? with
  | some place, some item =>
    let item := item.tick elapsed
    let shown := LifecycleEvent.revealed item.id item.revealed
    let items := run.items.set place item
    if item.state = .done then
      ({ run with items, active := none }, [shown, .done item.id])
    else ({ run with items }, [shown])
  | _, _ => (run, [])

/-- Shows the active item fully. -/
def finishActive (run : ScreenRun) : ScreenRun × List LifecycleEvent :=
  match run.active, run.active? with
  | some place, some item =>
    ({ run with items := run.items.set place item.finish, active := none },
      [.revealed item.id item.length, .done item.id])
  | _, _ => (run, [])

end ScreenRun

end Teletype
