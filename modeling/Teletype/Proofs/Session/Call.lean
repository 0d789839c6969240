import Teletype.Session.Play
import Teletype.Session.Setup
/-!
# Calls on a session

A host sets up a session and plays it by calls that may come in any order. A call that fails leaves
the session as it was at the failure, and the host goes on from there.
-/

namespace Teletype

/-- A session as it is set up: its document is new, and nothing shows yet. -/
structure Session.OpensFrom (s : Session) (setup : Setup) (settings : Settings) : Prop where
  /-- The settings of the setup by themselves. -/
  own : setup.ownSettings = .ok settings
  document : setup.ownDocument = .ok s.document
  start : Setup.startScreen (setup.overriding settings) s.document = .ok s.start
  world : s.world = ⟨s.document.initialStore, .ofToggles s.document.toggles,
    .ofSeed (UInt64.ofNat ((setup.overriding settings).seed.getD setup.entropy))⟩
  dispatcher : s.dispatcher = .ofCommands setup.hostCommands
  columns : s.columns = s.document.config.clampColumns (setup.overriding settings).columns
  tickInterval : s.tickInterval = .ofMillis (setup.overriding settings).tickMs
  run : s.run = none
  dialog : s.dialog = none

/-- A session is set up from settings, a document and a screen to begin with. -/
theorem Setup.exists_opensFrom {setup : Setup} {s : Session} (h : setup.session = .ok s) :
    ∃ settings, s.OpensFrom setup settings := by
  unfold session at h
  cases own : setup.ownSettings with
  | error e => simp [own, bind, Except.bind] at h
  | ok settings =>
    cases document : setup.ownDocument with
    | error e => simp [own, document, bind, Except.bind] at h
    | ok d =>
      cases start : startScreen (setup.overriding settings) d with
      | error e => simp [own, document, start, bind, Except.bind] at h
      | ok id =>
        simp only [own, document, start, bind, Except.bind, pure, Except.pure,
          Except.ok.injEq] at h
        subst h
        exact ⟨settings, own, document, start, rfl, rfl, rfl, rfl, rfl, rfl⟩

/-- What a player asks for: an input on a screen or on the one that shows, or a link of it. -/
inductive Request where
  | typeOn (screen input : String)
  | type (input : String)
  | click (item : String) (shift : Bool)

/-- Carries out a request and gives the signals that were followed. -/
def Request.play : Request → Play (List Signal)
  | typeOn screen input => do return (← Session.dispatch screen input).signals
  | type input => do return (← Session.submit input).signals
  | click item shift => Session.followLink item shift

/-- What a host can do with a session. -/
inductive Call where
  | begin
  | activate (screen : String)
  | request (r : Request)
  | tick
  | tickBy (elapsed : Duration)
  | skip
  | flip (item : String)
  | dismiss
  | resize (columns : Nat)
  | restore (saved : Store)
  /-- Puts other variables in the place of those that there are. -/
  | write (store : Store)

namespace Call

/-- Makes a call and gives the events that it reports. Where a request leads is not reported. -/
def play : Call → Play (List LifecycleEvent)
  | begin => Session.begin
  | activate screen => Session.activate screen
  | request r => do
    let _ ← r.play
    return []
  | tick => Session.tick
  | tickBy elapsed => Session.tickBy elapsed
  | skip => Session.skip
  | flip item => do
    modify fun s ↦ s.flip item
    return []
  | dismiss => do
    modify Session.dismiss
    return []
  | resize columns => do
    modify fun s ↦ s.resize columns
    return []
  | restore saved => do
    modify fun s ↦ s.restore saved
    return []
  | write store => do
    modify fun s ↦ { s with world := { s.world with store } }
    return []

/-- Whether a call shows no screen of the choice of the host: it begins, or does what a player can
do, or what concerns no screen. -/
def isGuided : Call → Bool
  | activate _ | request (.typeOn ..) => false
  | _ => true

/-- Whether a call only goes on with the reveal of the screen that shows. -/
def isWait : Call → Bool
  | tick | tickBy _ | skip => true
  | _ => false

end Call

namespace Session

/-- The session after a call, whether it succeeds or fails. -/
def after (s : Session) (c : Call) : Session :=
  match c.play s with
  | .ok _ t | .error _ t => t

/-- The session after several calls. -/
def afterAll (s : Session) (calls : List Call) : Session := calls.foldl after s

/-- The failures of several calls, in order. -/
def failures (s : Session) : List Call → List SessionError
  | [] => []
  | c :: calls =>
    match c.play s with
    | .ok _ t => t.failures calls
    | .error e t => e :: t.failures calls

/-- Makes calls as long as they succeed, and gives all the events that they report. -/
def playAll : List Call → Play (List LifecycleEvent)
  | [] => return []
  | c :: calls => do
    let first ← c.play
    let rest ← playAll calls
    return first ++ rest

end Session

end Teletype
