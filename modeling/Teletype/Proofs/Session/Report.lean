import Teletype.Proofs.Reveal.Report
import Teletype.Proofs.Session.Stage
/-!
# What showing a screen and waiting for it tell

The events of a call that succeeds tell everything that it has done to the items of the screen that
shows, and leave the reveal at rest: with an active item or at its end. From a reveal at rest a call
that fails has always moved an item before.
-/

namespace Teletype

open ScreenRun (Staged Onward)

/-- A reveal of a screen of a document. -/
structure ScreenRun.IsOf (d : Document) (screen : Screen) (run : ScreenRun) : Prop where
  found : d.screen? run.screen = some screen
  staged : Staged (screen.revealEntries d.config.speed) run.items run.active

variable {d : Document} {screen : Screen}

/-- Operations on a reveal of a screen lead to reveals of that screen. -/
theorem ScreenRun.IsOf.step {run : ScreenRun} (h : run.IsOf d screen) (op : RevealStep) :
    (run.step op).IsOf d screen :=
  ⟨run.screen_step op ▸ h.found, staged_step h.staged op⟩

/-- The entries of a screen have the ids of its items. -/
theorem Screen.map_id_revealEntries (screen : Screen) (speed : Option Nat) :
    (screen.revealEntries speed).map RevealEntry.id = screen.items.map Item.id := by
  simp [revealEntries]

/-- The items of a reveal have the ids of the items of its screen. -/
theorem ScreenRun.IsOf.map_id {run : ScreenRun} (h : run.IsOf d screen) :
    run.items.map ItemProgress.id = screen.items.map Item.id :=
  h.staged.sequenced.ids_eq.trans (screen.map_id_revealEntries _)

namespace Session

/-- A session of a document in which a certain reveal shows, which is one of a certain screen. -/
structure Shows (d : Document) (screen : Screen) (run : ScreenRun) (s : Session) : Prop where
  document_eq : s.document = d
  run_eq : s.run = some run
  isOf : run.IsOf d screen

variable {s t : Session} {run changed : ScreenRun} {events : List LifecycleEvent} {e : SessionError}

/-- The reveal that shows may be replaced by another one of the screen. -/
theorem Shows.with_run (h : s.Shows d screen run) (isOf : changed.IsOf d screen) :
    ({ s with run := some changed } : Session).Shows d screen changed :=
  ⟨h.document_eq, rfl, isOf⟩

private theorem isOf_step (items : List ItemProgress) (run : ScreenRun) (op : RevealStep)
    (h : run.IsOf d screen ∧ Onward items run.items) :
    (run.step op).IsOf d screen ∧ Onward items (run.step op).items :=
  ⟨h.1.step op, h.2.trans (ScreenRun.onward_step run op)⟩

private theorem Showing.exists_shows {dialog : Option String} {items : List ItemProgress}
    (h : t.Showing d dialog fun run ↦ run.IsOf d screen ∧ Onward items run.items) :
    ∃ later, t.Shows d screen later ∧ Onward items later.items := by
  obtain ⟨later, run_eq, isOf, onward⟩ := h.exists_run
  exact ⟨later, ⟨h.document_eq, run_eq, isOf⟩, onward⟩

private theorem Shows.showing (h : s.Shows d screen run) :
    s.Showing d s.dialog fun later ↦ later.IsOf d screen ∧ Onward run.items later.items :=
  ⟨h.document_eq, rfl, run, h.run_eq, h.isOf, .refl run.items⟩

/-! ## Waiting -/

/-- An advance that succeeds leaves the reveal that its items lead to. -/
theorem Shows.of_advance (h : s.Shows d screen run) (ok : advance s = .ok events t) :
    (run.advance (s.measure screen) s.world).1 = .ok events ∧
      t = { s with
        run := some (run.advance (s.measure screen) s.world).2.1
        world := (run.advance (s.measure screen) s.world).2.2 } ∧
      t.Shows d screen (run.advance (s.measure screen) s.world).2.1 := by
  have found : s.document.screen? run.screen = some screen := h.document_eq ▸ h.isOf.found
  rw [advance_of_screen h.run_eq found] at ok
  cases ho : (run.advance (s.measure screen) s.world).1 with
  | error e =>
    rw [ho] at ok
    cases ok
  | ok told =>
    rw [ho] at ok
    cases ok
    exact ⟨rfl, rfl, h.document_eq, rfl, h.isOf.step (.advance (s.measure screen) s.world)⟩

/-- An advance that succeeds tells what it has done and leaves the reveal at rest. -/
theorem Shows.reports_advance (h : s.Shows d screen run) (ok : advance s = .ok events t) :
    ∃ later, t.Shows d screen later ∧ Reports run.items events later.items ∧ later.Rests := by
  obtain ⟨told, -, shows⟩ := h.of_advance ok
  exact ⟨_, shows, ScreenRun.reports_advance _ run _ told,
    ScreenRun.rests_of_advance h.isOf.staged _ _ told⟩

/-- A reveal at rest has nothing to go on with, and an advance of it succeeds. -/
theorem Shows.exists_of_rests (h : s.Shows d screen run) (rests : run.Rests) :
    ∃ u, advance s = .ok [] u := by
  have found : s.document.screen? run.screen = some screen := h.document_eq ▸ h.isOf.found
  rw [advance_of_screen h.run_eq found, ScreenRun.outcome_advance_of_rests rests]
  exact ⟨_, rfl⟩

/-- Time that passes without a failure tells what it has done. -/
theorem Shows.reports_tickBy (h : s.Shows d screen run) (elapsed : Duration)
    (ok : tickBy elapsed s = .ok events t) :
    ∃ later, t.Shows d screen later ∧ Reports run.items events later.items ∧ later.Rests := by
  rw [tickBy_of_run h.run_eq] at ok
  obtain ⟨more, u, advanced, ok⟩ := bind_eq_ok_iff.mp ok
  cases ok
  have isOf : (run.tick elapsed).1.IsOf d screen := h.isOf.step (.tick elapsed)
  have ticked := h.with_run isOf
  obtain ⟨later, shows, told, rests⟩ := ticked.reports_advance advanced
  exact ⟨later, shows, (run.reports_tick elapsed).trans told, rests⟩

/-- Showing active items fully, without a failure, tells what it has done. -/
theorem Shows.reports_skipSteps (h : s.Shows d screen run) (rests : run.Rests) {fuel : Nat}
    (ok : skipSteps fuel s = .ok events t) :
    ∃ later, t.Shows d screen later ∧ Reports run.items events later.items ∧ later.Rests := by
  induction fuel generalizing s run events with
  | zero =>
    cases ok
    exact ⟨run, h, .refl run.items, rests⟩
  | succ fuel ih =>
    rw [skipSteps_of_run h.run_eq] at ok
    split at ok
    · cases ok
      exact ⟨run, h, .refl run.items, rests⟩
    · obtain ⟨more, u, advanced, ok⟩ := bind_eq_ok_iff.mp ok
      obtain ⟨rest, v, skipped, ok⟩ := bind_eq_ok_iff.mp ok
      cases ok
      have isOf : run.finishActive.1.IsOf d screen := h.isOf.step .finish
      have finished := h.with_run isOf
      obtain ⟨middle, shows, told, rests⟩ := finished.reports_advance advanced
      obtain ⟨later, shows, told', rests⟩ := ih shows rests skipped
      exact ⟨later, shows, (run.reports_finishActive.trans told).trans told', rests⟩

/-- Time that fails to pass has moved an item. -/
theorem Shows.moved_tickBy (h : s.Shows d screen run) (rests : run.Rests) (elapsed : Duration)
    (failed : tickBy elapsed s = .error e t) :
    (∃ later, t.Shows d screen later ∧ Moved run.items later.items) ∧ ¬ e.IsUnknownScreen := by
  rw [tickBy_of_run h.run_eq] at failed
  have isOf : (run.tick elapsed).1.IsOf d screen := h.isOf.step (.tick elapsed)
  have ticked := h.with_run isOf
  have advanced := error_of_bind_pure failed
  have ended : ¬ (run.tick elapsed).1.Rests := by
    intro resting
    obtain ⟨u, ok⟩ := ticked.exists_of_rests resting
    cases ok.symm.trans advanced
  obtain ⟨showing, other⟩ :=
    (keeps_advance_showing (isOf_step _)).of_error ticked.showing advanced
  obtain ⟨later, shows, onward⟩ := showing.exists_shows
  exact ⟨⟨later, shows,
    (ScreenRun.moved_tick h.isOf.staged rests elapsed ended).trans_onward onward⟩, other⟩

/-- A skip that fails has moved an item. -/
theorem Shows.moved_skipSteps (h : s.Shows d screen run) (rests : run.Rests) {fuel : Nat}
    (failed : skipSteps fuel s = .error e t) :
    (∃ later, t.Shows d screen later ∧ Moved run.items later.items) ∧ ¬ e.IsUnknownScreen := by
  cases fuel with
  | zero => cases failed
  | succ fuel =>
    rw [skipSteps_of_run h.run_eq] at failed
    split at failed
    · cases failed
    · next going =>
      have isOf : run.finishActive.1.IsOf d screen := h.isOf.step .finish
      have finished := h.with_run isOf
      have onstage : Onstage d s.dialog
          (fun later ↦ later.IsOf d screen ∧ Onward run.finishActive.1.items later.items) (do
            let events ← advance
            let rest ← skipSteps fuel
            return run.finishActive.2 ++ events ++ rest) :=
        (keeps_advance_showing (isOf_step _)).bind fun _ _ ↦
          (keeps_skipSteps_showing (isOf_step _) fuel).bind fun _ _ ↦ keeps_pure trivial
      obtain ⟨showing, other⟩ := onstage.of_error finished.showing failed
      obtain ⟨later, shows, onward⟩ := showing.exists_shows
      have moved := ScreenRun.moved_finishActive h.isOf.staged rests (Bool.of_not_eq_true going)
      exact ⟨⟨later, shows, moved.trans_onward onward⟩, other⟩

section Wait

variable {c : Call} (wait : c.isWait = true)

include wait

/-- Without a screen there is nothing to wait for. -/
theorem play_of_no_run (h : s.run = none) : c.play s = .ok [] s := by
  have ticked : ∀ elapsed, tickBy elapsed s = .ok [] s := by
    intro elapsed
    unfold tickBy
    rw [get_bind, h]
    rfl
  cases c with
  | tick => exact (tick_eq s).trans (ticked s.tickInterval)
  | tickBy elapsed => exact ticked elapsed
  | skip =>
    refine (skip_eq s).trans ?_
    rw [skipSteps, get_bind, h]
    rfl
  | begin | activate | request | flip | dismiss | resize | restore | write => cases wait

/-- Waiting that succeeds tells what it has done. -/
theorem Shows.reports_play (h : s.Shows d screen run) (rests : run.Rests)
    (ok : c.play s = .ok events t) :
    ∃ later, t.Shows d screen later ∧ Reports run.items events later.items ∧ later.Rests := by
  cases c with
  | tick => exact h.reports_tickBy s.tickInterval ((tick_eq s).symm.trans ok)
  | tickBy elapsed => exact h.reports_tickBy elapsed ok
  | skip => exact h.reports_skipSteps rests ((skip_eq s).symm.trans ok)
  | begin | activate | request | flip | dismiss | resize | restore | write => cases wait

/-- Waiting that fails has moved an item. -/
theorem Shows.moved_play (h : s.Shows d screen run) (rests : run.Rests)
    (failed : c.play s = .error e t) :
    (∃ later, t.Shows d screen later ∧ Moved run.items later.items) ∧ ¬ e.IsUnknownScreen := by
  cases c with
  | tick => exact h.moved_tickBy rests s.tickInterval ((tick_eq s).symm.trans failed)
  | tickBy elapsed => exact h.moved_tickBy rests elapsed failed
  | skip => exact h.moved_skipSteps rests ((skip_eq s).symm.trans failed)
  | begin | activate | request | flip | dismiss | resize | restore | write => cases wait

end Wait

/-! ## Showing a screen -/

section Activate

variable {id : String} (found : s.document.screen? id = some screen)

include found

/-- A screen that is shown is told of from the start. -/
theorem tells_of_activate (distinct : (screen.items.map Item.id).Nodup)
    (shown : activate id s = .ok events t) :
    ∃ later, t.Shows s.document screen later ∧ later.Rests ∧
      ∀ account : Account, (account.hearAll events).Tells later.items := by
  rw [activate_of_screen found] at shown
  obtain ⟨⟨⟩, u, worked, shown⟩ := bind_eq_ok_iff.mp shown
  obtain ⟨more, v, advanced, shown⟩ := bind_eq_ok_iff.mp shown
  cases shown
  -- the changes outside of the reveal leave the reveal at its start
  have begun : u.Shows s.document screen
      (.start id (screen.revealEntries s.document.config.speed)) := by
    unfold work at worked
    split at worked <;> cases worked
    exact ⟨rfl, rfl, found, .waiting _⟩
  obtain ⟨later, shows, told, rests⟩ := begun.reports_advance advanced
  have entries : ((screen.revealEntries s.document.config.speed).map RevealEntry.id).Nodup := by
    rwa [screen.map_id_revealEntries]
  refine ⟨later, shows, rests, fun account ↦ ?_⟩
  rw [Account.hearAll_append]
  refine told.tells ?_ _ (ScreenRun.tells_startEvents entries account)
  rwa [begun.isOf.map_id]

/-- A screen that cannot be shown is not empty, and it shows all the same. -/
theorem shows_of_activate_eq_error (failed : activate id s = .error e t) :
    (∃ later, t.Shows s.document screen later) ∧ screen.items ≠ [] ∧ ¬ e.IsUnknownScreen := by
  have begun : (ScreenRun.start id (screen.revealEntries s.document.config.speed)).IsOf s.document
      screen := ⟨found, .waiting _⟩
  obtain ⟨showing, other⟩ := showing_of_activate_eq_error (isOf_step _) found
    ⟨begun, .refl _⟩ failed
  obtain ⟨later, shows, -⟩ := showing.exists_shows
  refine ⟨⟨later, shows⟩, fun empty ↦ ?_, other⟩
  have unchanged : screen.immediateMutations = [] := by simp [Screen.immediateMutations, empty]
  have rests : (ScreenRun.start id (screen.revealEntries s.document.config.speed)).Rests := by
    intro _
    simp [ScreenRun.start, Screen.revealEntries, empty, ScreenRun.isDone]
  rw [activate_of_screen found, unchanged] at failed
  rcases bind_eq_error_iff.mp failed with worked | ⟨_, u, worked, failed⟩
  · cases worked
  · cases worked
    have shows : Shows s.document screen (.start id (screen.revealEntries s.document.config.speed))
        { s with run := some (.start id (screen.revealEntries s.document.config.speed)) } :=
      ⟨rfl, rfl, begun⟩
    obtain ⟨v, ok⟩ := shows.exists_of_rests rests
    cases ok.symm.trans (error_of_bind_pure failed)

end Activate

end Session

end Teletype
