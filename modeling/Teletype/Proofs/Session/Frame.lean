import Teletype.Proofs.Session.Failure
import Teletype.Proofs.Session.Stage
/-!
# What calls never change

Calls change the world, the dispatcher, the columns, the reveal and the open dialog of a session.
All else stays as it was set up, whatever is called and whatever fails: the document, the clock, the
fonts and how placeholders and the cursor are written.
-/

namespace Teletype.Session

/-- What is said of a session has nothing to do with what calls change. -/
def IsFixed (p : Session → Prop) : Prop :=
  ∀ (s : Session) (world : World) (dispatcher : Dispatcher) (columns : Nat) (run : Option ScreenRun)
    (dialog : Option String), p s → p { s with world, dispatcher, columns, run, dialog }

/-- The time of a tick is set up once and for all. -/
theorem isFixed_tickInterval (interval : Duration) : IsFixed fun s ↦ s.tickInterval = interval :=
  fun _ _ _ _ _ _ h ↦ h

variable {p : Session → Prop} (fixed : IsFixed p)

include fixed

/-- Work on the world keeps what is fixed. -/
theorem fixed_work {α : Type} (w : Work α) : Preserves p (work w) := by
  intro s hs
  unfold work
  cases w s.world with
  | ok a world => exact ⟨fixed s world s.dispatcher s.columns s.run s.dialog hs, trivial⟩
  | error e world => exact ⟨fixed s world s.dispatcher s.columns s.run s.dialog hs, trivial⟩

/-- Another reveal keeps what is fixed. -/
theorem fixed_modify_run (run : ScreenRun) :
    Preserves p (modify fun s ↦ { s with run := some run } : Play PUnit) :=
  keeps_modify fun s hs ↦ fixed s s.world s.dispatcher s.columns (some run) s.dialog hs

/-- Going on with a reveal keeps what is fixed. -/
theorem fixed_advance : Preserves p advance := by
  intro s hs
  cases hr : s.run with
  | none =>
    rw [advance_of_no_run hr]
    exact ⟨hs, trivial⟩
  | some run =>
    cases hd : s.document.screen? run.screen with
    | none =>
      rw [advance_of_no_screen hr hd]
      exact ⟨hs, trivial⟩
    | some screen =>
      have later := fixed s (run.advance (s.measure screen) s.world).2.2 s.dispatcher s.columns
        (some (run.advance (s.measure screen) s.world).2.1) s.dialog hs
      rw [advance_of_screen hr hd]
      cases (run.advance (s.measure screen) s.world).1 <;> exact ⟨later, trivial⟩

/-- Showing a screen keeps what is fixed. -/
theorem fixed_activate (id : String) : Preserves p (activate id) := by
  refine keeps_get.bind fun s _ ↦ ?_
  split
  · exact keeps_throw trivial
  · exact (fixed_modify_run fixed _).bind fun _ _ ↦ (fixed_work fixed _).bind fun _ _ ↦
      (fixed_advance fixed).bind fun _ _ ↦ keeps_pure trivial

/-- Time keeps what is fixed. -/
theorem fixed_tickBy (elapsed : Duration) : Preserves p (tickBy elapsed) := by
  refine keeps_get.bind fun s _ ↦ ?_
  split
  · exact keeps_pure trivial
  · exact (fixed_modify_run fixed _).bind fun _ _ ↦ (fixed_advance fixed).bind fun _ _ ↦
      keeps_pure trivial

/-- Showing active items fully keeps what is fixed. -/
theorem fixed_skipSteps (fuel : Nat) : Preserves p (skipSteps fuel) := by
  induction fuel with
  | zero => exact keeps_pure trivial
  | succ fuel ih =>
    refine keeps_get.bind fun s _ ↦ ?_
    split
    · exact keeps_pure trivial
    · split
      · exact keeps_pure trivial
      · exact (fixed_modify_run fixed _).bind fun _ _ ↦ (fixed_advance fixed).bind fun _ _ ↦
          ih.bind fun _ _ ↦ keeps_pure trivial

/-- Following signals keeps what is fixed. -/
theorem fixed_follow (signals : List Signal) : Preserves p (follow signals) := by
  have opens : ∀ id, Preserves p (modify fun s ↦ { s with dialog := some id } : Play PUnit) :=
    fun id ↦ keeps_modify fun s hs ↦ fixed s s.world s.dispatcher s.columns s.run (some id) hs
  refine keeps_get.bind fun s _ ↦ ?_
  split
  · exact keeps_throw trivial
  · cases Signal.lastScreen? signals with
    | none =>
      cases (Signal.dialogs signals).getLast? with
      | none => exact keeps_pure trivial
      | some id => exact (opens id).bind fun _ _ ↦ keeps_pure trivial
    | some screen =>
      have last : Preserves p (do
          let _ ← activate screen
          return () : Play Unit) :=
        (fixed_activate fixed screen).bind fun _ _ ↦ keeps_pure trivial
      cases (Signal.dialogs signals).getLast? with
      | none => exact last
      | some id => exact (opens id).bind fun _ _ ↦ last

/-- Running an input at a prompt keeps what is fixed. -/
theorem fixed_dispatchAt (prompt : Prompt) (input : String) :
    Preserves p (dispatchAt prompt input) := by
  intro s hs
  unfold dispatchAt
  rcases s.dispatcher.dispatch prompt input s.world with ⟨_ | _, dispatcher⟩ <;>
    exact ⟨fixed s _ dispatcher s.columns s.run s.dialog hs, trivial⟩

/-- Answering an input keeps what is fixed. -/
theorem fixed_answer (screen input : String) : Preserves p (answer screen input) := by
  refine keeps_get.bind fun s _ ↦ ?_
  split
  · exact keeps_throw trivial
  · split
    · exact keeps_pure trivial
    · exact (fixed_dispatchAt fixed _ input).bind fun _ _ ↦ keeps_pure trivial

/-- Acting on what a player asks for keeps what is fixed. -/
theorem fixed_act (r : Request) : Preserves p r.act := by
  cases r with
  | typeOn screen input => exact fixed_answer fixed screen input
  | type input =>
    refine keeps_get.bind fun s _ ↦ ?_
    split
    · exact fixed_answer fixed _ input
    · exact keeps_throw trivial
  | click id shift =>
    refine keeps_get.bind fun s _ ↦ ?_
    split
    · exact keeps_throw trivial
    · split
      · exact fixed_work fixed _
      · exact keeps_throw trivial

/-- A call keeps what is fixed. -/
theorem fixed_play (c : Call) : Preserves p c.play := by
  -- calls that cannot fail change a session and report nothing
  have quiet : ∀ f : Session → Session, (∀ s, p s → p (f s)) →
      Preserves p (do
        modify f
        return [] : Play (List LifecycleEvent)) :=
    fun f hf ↦ (keeps_modify hf).bind fun _ _ ↦ keeps_pure trivial
  cases c with
  | begin => exact keeps_get.bind fun s _ ↦ fixed_activate fixed s.start
  | activate screen => exact fixed_activate fixed screen
  | request r =>
    rw [Call.play, r.play_eq]
    exact ((fixed_act fixed r).bind fun _ _ ↦ (fixed_follow fixed _).bind fun _ _ ↦
      keeps_pure trivial).bind fun _ _ ↦ keeps_pure trivial
  | tick => exact keeps_get.bind fun s _ ↦ fixed_tickBy fixed s.tickInterval
  | tickBy elapsed => exact fixed_tickBy fixed elapsed
  | skip => exact keeps_get.bind fun s _ ↦ fixed_skipSteps fixed _
  | flip item => exact quiet _ fun s hs ↦ fixed s _ s.dispatcher s.columns s.run s.dialog hs
  | dismiss => exact quiet _ fun s hs ↦ fixed s s.world s.dispatcher s.columns s.run none hs
  | resize columns => exact quiet _ fun s hs ↦ fixed s s.world s.dispatcher _ s.run s.dialog hs
  | restore saved => exact quiet _ fun s hs ↦ fixed s _ s.dispatcher s.columns s.run s.dialog hs
  | write store => exact quiet _ fun s hs ↦ fixed s _ s.dispatcher s.columns s.run s.dialog hs

/-- What is fixed is so throughout any calls, those that fail among them. -/
theorem fixed_afterAll {s : Session} (h : p s) (calls : List Call) : p (s.afterAll calls) := by
  refine List.foldlRecOn (motive := p) calls after h fun t ht c _ ↦ ?_
  exact after_eq_leftBy t c ▸ (fixed_play fixed c).leftBy ht

end Teletype.Session
