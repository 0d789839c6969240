import Teletype.Proofs.Keeps
import Teletype.Proofs.Reveal.Sequence
import Teletype.Session.Play
/-!
# Showing a screen

What measuring an item does in each case, what a session is after its reveal has gone on, and what
showing a screen comes down to.
-/

namespace Teletype

/-- A change of a variable changes some variable. -/
theorem Content.exists_of_isMutation {c : Content} (h : c.isMutation = true) :
    ∃ target m, c = .mutate target m := by
  cases c with
  | mutate target m => exact ⟨target, m, rfl⟩
  | text | bitmap | link | toggle | prompt | countdown => cases h

namespace ScreenRun

/-- A passage fails only with what a measure fails with. -/
theorem fails_of_pass {ε σ : Type} {fails : ε → Prop} {measure : String → EStateM ε σ Nat}
    (h : ∀ id, Keeps (fun _ ↦ True) fails (fun _ ↦ True) (measure id))
    (items : List ItemProgress) (world : σ) {e : ε}
    (failed : (pass measure items world).outcome = .error e) : fails e := by
  induction items generalizing world with
  | nil => cases failed
  | cons item items ih =>
    by_cases hr : item.state = .ready
    · cases hm : measure item.id world with
      | error fault after =>
        rw [pass_cons_of_error measure hr hm] at failed
        cases failed
        exact ((h item.id).of_error trivial hm).2
      | ok length after =>
        cases hi : item.isInstant length with
        | true =>
          rw [pass_cons_of_instant measure hr hm hi, Passage.outcome_after_eq_error] at failed
          exact ih after failed
        | false =>
          rw [pass_cons_of_slow measure hr hm hi] at failed
          cases failed
    · rw [pass_cons_of_not_ready measure hr, Passage.outcome_after_eq_error] at failed
      exact ih world failed

/-- An advance fails only with what a measure fails with. -/
theorem fails_of_advance {ε σ : Type} {fails : ε → Prop} {measure : String → EStateM ε σ Nat}
    (h : ∀ id, Keeps (fun _ ↦ True) fails (fun _ ↦ True) (measure id)) (run : ScreenRun)
    (world : σ) {e : ε} (failed : (run.advance measure world).1 = .error e) : fails e := by
  cases ha : run.active with
  | some place =>
    rw [advance_of_active measure ha] at failed
    cases failed
  | none =>
    rw [advance_of_idle measure ha] at failed
    exact fails_of_pass h run.items world failed

end ScreenRun

namespace Session

variable {s : Session} {screen : Screen} {id : String} {item : Item}

/-- An item that the screen does not have has no length. -/
theorem measure_of_none (h : screen.item? id = none) (w : World) :
    s.measure screen id w = .ok 0 w := by
  unfold measure
  rw [h]

/-- A change of a variable is made when it is measured. -/
theorem measure_of_mutate (h : screen.item? id = some item) {target : String} {m : Mutation}
    (hc : item.content = .mutate target m) (w : World) :
    s.measure screen id w =
      match m.apply target none w with
      | .ok _ w => .ok 0 w
      | .error e w => .error (.action e) w := by
  unfold measure
  cases hw : m.apply target none w <;> simp only [h, hc, hw]

/-- Any other item is laid out, which changes nothing. -/
theorem measure_of_laid (h : screen.item? id = some item) (hc : item.content.isMutation = false)
    (w : World) :
    s.measure screen id w =
      match (s.stage w).layout item with
      | .ok text => .ok text.length w
      | .error e => .error (.format e) w := by
  unfold measure
  simp only [h]
  split
  · next hi => simp [hi, Content.isMutation] at hc
  · cases (s.stage w).layout item <;> rfl

/-- Nothing goes on when no screen shows. -/
theorem advance_of_no_run (h : s.run = none) : advance s = .ok [] s := by
  unfold advance
  rw [h]

/-- Nothing goes on when the screen that shows does not exist. -/
theorem advance_of_no_screen {run : ScreenRun} (h : s.run = some run)
    (hd : s.document.screen? run.screen = none) : advance s = .ok [] s := by
  unfold advance
  simp only [h, hd]

/-- The reveal of a screen goes on with the measures of its items. -/
theorem advance_of_screen {run : ScreenRun} (h : s.run = some run)
    (hd : s.document.screen? run.screen = some screen) :
    advance s =
      match (run.advance (s.measure screen) s.world).1 with
      | .ok events => .ok events { s with
          run := some (run.advance (s.measure screen) s.world).2.1
          world := (run.advance (s.measure screen) s.world).2.2 }
      | .error e => .error e { s with
          run := some (run.advance (s.measure screen) s.world).2.1
          world := (run.advance (s.measure screen) s.world).2.2 } := by
  unfold advance
  cases ho : (run.advance (s.measure screen) s.world).1 <;> simp only [h, hd, ho]

/-- Time passes for the reveal that shows before it goes on. -/
theorem tickBy_of_run {run : ScreenRun} (h : s.run = some run) (elapsed : Duration) :
    tickBy elapsed s = (do
      let events ← advance
      return (run.tick elapsed).2 ++ events : Play (List LifecycleEvent))
        { s with run := some (run.tick elapsed).1 } := by
  unfold tickBy
  rw [get_bind]
  simp only [h]
  rfl

/-- A tick lets the time of one tick pass. -/
theorem tick_eq (s : Session) : tick s = tickBy s.tickInterval s := by
  unfold tick
  rw [get_bind]

/-- Skipping has steps for all items that are not done. -/
theorem skip_eq (s : Session) :
    skip s = skipSteps ((s.run.map ScreenRun.pending).getD 0 + 1) s := by
  unfold skip
  rw [get_bind]

/-- Skipping ends when every item is done, and else finishes an item before the reveal goes on. -/
theorem skipSteps_of_run {run : ScreenRun} (h : s.run = some run) (fuel : Nat) :
    skipSteps (fuel + 1) s =
      if run.isDone then .ok [] s
      else (do
        let events ← advance
        let rest ← skipSteps fuel
        return run.finishActive.2 ++ events ++ rest : Play (List LifecycleEvent))
          { s with run := some run.finishActive.1 } := by
  rw [skipSteps, get_bind]
  simp only [h]
  split <;> rfl

/-- A screen that does not exist is not shown, and everything stays as it is. -/
theorem activate_of_none (h : s.document.screen? id = none) :
    activate id s = .error (.unknownScreen id) s := by
  unfold activate
  rw [get_bind, h]
  rfl

/-- Showing a screen replaces the reveal before anything that may fail. -/
theorem activate_of_screen (h : s.document.screen? id = some screen) :
    activate id s = (do
      work (Mutation.applyAll screen.immediateMutations)
      let events ← advance
      return ScreenRun.startEvents (screen.revealEntries s.document.config.speed) ++ events :
        Play (List LifecycleEvent))
      { s with run := some (.start id (screen.revealEntries s.document.config.speed)) } := by
  unfold activate
  rw [get_bind, h]
  rfl

/-- An item that is found stands on the screen that shows. -/
theorem exists_of_item {id : String} {item : Item} (h : s.item id = .ok item) :
    ∃ run screen, s.run = some run ∧ s.document.screen? run.screen = some screen ∧
      item ∈ screen.items := by
  unfold Session.item at h
  split at h
  · cases h
  · next screen hscreen =>
    obtain ⟨shown, hs, found⟩ := Option.bind_eq_some_iff.mp hscreen
    obtain ⟨run, hrun, rfl⟩ := Option.map_eq_some_iff.mp hs
    split at h
    · next hi =>
      cases h
      exact ⟨run, screen, hrun, found, List.mem_of_find?_eq_some hi⟩
    · cases h

end Session

end Teletype
