import Teletype.Proofs.Reveal.Sequence
import Teletype.Proofs.Session.Advance
import Teletype.Proofs.Session.Call
/-!
# What becomes of the screen that shows

Showing a screen and waiting for it change the reveal by advancing, ticking and finishing items, and
by nothing else. Whatever these keep of a reveal is therefore kept by every such call, whether it
succeeds or fails, and so are the document and the open dialog. Once a screen has been found,
nothing fails for want of one.
-/

namespace Teletype

/-- Whether a failure is that of finding a screen. -/
def SessionError.IsUnknownScreen (e : SessionError) : Prop := ∃ id, e = .unknownScreen id

namespace Session

variable {s t : Session} {c : Call}

/-- After a call that succeeds a session is as the call has left it. -/
theorem after_of_ok {events : List LifecycleEvent} (h : c.play s = .ok events t) :
    s.after c = t := by
  rw [after, h]

/-- After a call that fails a session is as it was at the failure. -/
theorem after_of_error {e : SessionError} (h : c.play s = .error e t) : s.after c = t := by
  rw [after, h]

/-- After a call a session is what the call leaves of it. -/
theorem after_eq_leftBy (s : Session) (c : Call) : s.after c = leftBy c.play s := by
  cases h : c.play s with
  | ok events t => rw [after_of_ok h, leftBy_of_ok h]
  | error e t => rw [after_of_error h, leftBy_of_error h]

/-- Nothing that stands on a screen leads to a screen when it is measured. -/
theorem keeps_measure (screen : Screen) (id : String) :
    Keeps (fun _ ↦ True) (fun e ↦ ¬ e.IsUnknownScreen) (fun _ ↦ True) (s.measure screen id) := by
  intro w _
  cases hi : screen.item? id with
  | none =>
    rw [measure_of_none hi]
    exact ⟨trivial, trivial⟩
  | some item =>
    cases hc : item.content.isMutation with
    | false =>
      rw [measure_of_laid hi hc]
      cases (s.stage w).layout item <;> simp [SessionError.IsUnknownScreen]
    | true =>
      obtain ⟨target, m, hm⟩ := Content.exists_of_isMutation hc
      rw [measure_of_mutate hi hm]
      cases m.apply target none w <;> simp [SessionError.IsUnknownScreen]

/-- A session of a document in which a dialog may be open and a screen shows, of whose reveal
something is known. -/
structure Showing (d : Document) (dialog : Option String) (p : ScreenRun → Prop) (s : Session) :
    Prop where
  document_eq : s.document = d
  dialog_eq : s.dialog = dialog
  exists_run : ∃ run, s.run = some run ∧ p run

variable {d : Document} {dialog : Option String} {p : ScreenRun → Prop}

/-- Another reveal of which the same is known may take the place of the one that there is. -/
theorem Showing.with_run (h : s.Showing d dialog p) {run : ScreenRun} (known : p run)
    (world : World) : ({ s with run := some run, world } : Session).Showing d dialog p :=
  ⟨h.document_eq, h.dialog_eq, run, rfl, known⟩

/-- Playing that keeps the screen that shows, and does not fail for want of one. -/
abbrev Onstage {α : Type} (d : Document) (dialog : Option String) (p : ScreenRun → Prop)
    (x : Play α) : Prop :=
  Keeps (Showing d dialog p) (fun e ↦ ¬ e.IsUnknownScreen) (fun _ ↦ True) x

/-- Work on the world does not touch what shows. -/
theorem keeps_work_showing {α : Type} (w : Work α) :
    Onstage d dialog p (work w) := by
  intro s hs
  have shown : ∀ world : World, ({ s with world } : Session).Showing d dialog p :=
    fun _ ↦ ⟨hs.document_eq, hs.dialog_eq, hs.exists_run⟩
  unfold work
  cases w s.world with
  | ok a world => exact ⟨shown world, trivial⟩
  | error e world => exact ⟨shown world, by simp [SessionError.IsUnknownScreen]⟩

section Wait

variable (kept : ∀ run op, p run → p (run.step op))

include kept

/-- Going on with a reveal keeps what operations on a reveal keep. -/
theorem keeps_advance_showing : Onstage d dialog p advance := by
  intro s hs
  obtain ⟨run, hrun, known⟩ := hs.exists_run
  cases hd : s.document.screen? run.screen with
  | none =>
    rw [advance_of_no_screen hrun hd]
    exact ⟨hs, trivial⟩
  | some screen =>
    have later : p (run.advance (s.measure screen) s.world).2.1 :=
      kept run (.advance (s.measure screen) s.world) known
    rw [advance_of_screen hrun hd]
    cases ho : (run.advance (s.measure screen) s.world).1 with
    | ok events => exact ⟨hs.with_run later _, trivial⟩
    | error e =>
      exact ⟨hs.with_run later _,
        ScreenRun.fails_of_advance (keeps_measure screen) run s.world ho⟩

/-- Time keeps what operations on a reveal keep. -/
theorem keeps_tickBy_showing (elapsed : Duration) :
    Onstage d dialog p (tickBy elapsed) := by
  refine keeps_get.bind fun s hs ↦ ?_
  obtain ⟨run, hrun, known⟩ := hs.exists_run
  simp only [hrun]
  refine (keeps_modify fun t ht ↦ ht.with_run (kept run (.tick elapsed) known) t.world).bind
    fun _ _ ↦ ?_
  exact (keeps_advance_showing kept).bind fun _ _ ↦ keeps_pure trivial

/-- Showing active items fully keeps what operations on a reveal keep. -/
theorem keeps_skipSteps_showing (fuel : Nat) :
    Onstage d dialog p (skipSteps fuel) := by
  induction fuel with
  | zero => exact keeps_pure trivial
  | succ fuel ih =>
    refine keeps_get.bind fun s hs ↦ ?_
    obtain ⟨run, hrun, known⟩ := hs.exists_run
    simp only [hrun]
    split
    · exact keeps_pure trivial
    · refine (keeps_modify fun t ht ↦ ht.with_run (kept run .finish known) t.world).bind
        fun _ _ ↦ ?_
      exact (keeps_advance_showing kept).bind fun _ _ ↦ ih.bind fun _ _ ↦ keeps_pure trivial

/-- A call that waits keeps what operations on a reveal keep. -/
theorem keeps_play_showing (h : c.isWait = true) : Onstage d dialog p c.play := by
  cases c with
  | tick => exact keeps_get.bind fun s _ ↦ keeps_tickBy_showing kept s.tickInterval
  | tickBy elapsed => exact keeps_tickBy_showing kept elapsed
  | skip => exact keeps_get.bind fun _ _ ↦ keeps_skipSteps_showing kept _
  | begin | activate | request | flip | dismiss | resize | restore | write => cases h

section Activate

variable {id : String} {screen : Screen} (found : s.document.screen? id = some screen)
  (known : p (.start id (screen.revealEntries s.document.config.speed)))

include found known

private theorem onstage_activate :
    ∃ x, Onstage s.document s.dialog p x ∧ ∃ begun : Session, begun.Showing s.document s.dialog p ∧
      activate id s = x begun := by
  refine ⟨_, ?keeps, _, ?begun, activate_of_screen found⟩
  case begun => exact ⟨rfl, rfl, _, rfl, known⟩
  case keeps =>
    exact (keeps_work_showing _).bind fun _ _ ↦
      (keeps_advance_showing kept).bind fun _ _ ↦ keeps_pure trivial

/-- A screen that has been shown is the one that shows, and its reveal is one that operations on the
reveal from the start may lead to. -/
theorem showing_of_activate_eq_ok {events : List LifecycleEvent}
    (shown : activate id s = .ok events t) : t.Showing s.document s.dialog p := by
  obtain ⟨x, keeps, begun, showing, same⟩ := onstage_activate kept found known
  exact (keeps.of_ok showing (same.symm.trans shown)).1

/-- A screen of the document that could not be shown is the one that shows all the same, and its
reveal is one that operations on the reveal from the start may lead to. -/
theorem showing_of_activate_eq_error {e : SessionError} (failed : activate id s = .error e t) :
    t.Showing s.document s.dialog p ∧ ¬ e.IsUnknownScreen := by
  obtain ⟨x, keeps, begun, showing, same⟩ := onstage_activate kept found known
  exact keeps.of_error showing (same.symm.trans failed)

end Activate

end Wait

end Session

end Teletype
