import Teletype.Proofs.Command.Choice
import Teletype.Proofs.Keeps
import Teletype.Proofs.Session.Advance
import Teletype.Proofs.Session.Call
import Teletype.Proofs.Session.Vault
/-!
# What a failed request leaves

A request first carries out an action and then goes where its signals lead. An action that fails
leaves the screen, its reveal and the open dialog as they were. What comes after it may not: a
dialog is opened before the screen is looked up, and the reveal is replaced before the screen has
come up.
-/

namespace Teletype

/-! ### Actions come first -/

/-- Runs an input on a screen and gives the signals without following them. -/
def Session.answer (screenId input : String) : Play (List Signal) := do
  let s ← get
  match s.document.screen? screenId with
  | none => throw (.unknownScreen screenId)
  | some screen =>
    match screen.prompt? with
    | none => return []
    | some p => return (← Session.dispatchAt p input).signals

/-- Carries out a request and gives the signals without following them. -/
def Request.act : Request → Play (List Signal)
  | typeOn screen input => Session.answer screen input
  | type input => do
    match (← get).screenId? with
    | some screen => Session.answer screen input
    | none => throw .noActiveScreen
  | click id shift => do
    let s ← get
    match s.item id with
    | .error e => throw e
    | .ok item =>
      match item.content with
      | .link _ actions _ => Session.work ((actions.forClick shift).perform none)
      | _ => throw (s.noItem id)

/-- Running an input on a screen is to answer and then to follow the signals. -/
theorem Session.dispatch_eq (screenId input : String) :
    (do return (← dispatch screenId input).signals : Play (List Signal)) = do
      let signals ← answer screenId input
      follow signals
      return signals := by
  unfold dispatch answer
  rw [bind_assoc, bind_assoc]
  refine bind_congr fun s ↦ ?_
  cases s.document.screen? screenId with
  | none => rfl
  | some screen =>
    simp only
    cases screen.prompt? with
    | none => rfl
    | some p => simp only [bind_assoc, pure_bind]

/-- To carry out a request is to act and then to follow the signals. -/
theorem Request.play_eq (r : Request) :
    r.play = do
      let signals ← r.act
      Session.follow signals
      return signals := by
  cases r with
  | typeOn screen input => exact Session.dispatch_eq screen input
  | type input =>
    simp only [play, act, Session.submit, bind_assoc]
    refine bind_congr fun s ↦ ?_
    cases s.screenId? with
    | none => rfl
    | some screen => exact Session.dispatch_eq screen input
  | click id shift =>
    simp only [play, act, Session.followLink, bind_assoc]
    refine bind_congr fun s ↦ ?_
    cases s.item id with
    | error e => rfl
    | ok item =>
      obtain ⟨_, _, _, content⟩ := item
      cases content <;> rfl

namespace Session

/-- A session that shows what another one shows. -/
structure ShowsAs (s t : Session) : Prop where
  document_eq : t.document = s.document
  run_eq : t.run = s.run
  dialog_eq : t.dialog = s.dialog

variable {s : Session} {id : String} {screen : Screen}

private theorem keeps_work {α : Type} (w : Work α) :
    Preserves s.ShowsAs (work w) := by
  intro t ht
  unfold work
  cases w t.world <;> exact ⟨⟨ht.document_eq, ht.run_eq, ht.dialog_eq⟩, trivial⟩

private theorem keeps_dispatchAt (p : Prompt) (input : String) :
    Preserves s.ShowsAs (dispatchAt p input) := by
  intro t ht
  unfold dispatchAt
  rcases t.dispatcher.dispatch p input t.world with ⟨_ | _, after⟩ <;>
    exact ⟨⟨ht.document_eq, ht.run_eq, ht.dialog_eq⟩, trivial⟩

private theorem keeps_answer (screenId input : String) :
    Preserves s.ShowsAs (answer screenId input) := by
  refine keeps_get.bind fun t _ ↦ ?_
  split
  · exact keeps_throw trivial
  · split
    · exact keeps_pure trivial
    · exact (keeps_dispatchAt _ input).bind fun _ _ ↦ keeps_pure trivial

end Session

/-- Acting changes nothing that shows. -/
theorem Request.keeps_act (r : Request) (s : Session) :
    Preserves s.ShowsAs r.act := by
  cases r with
  | typeOn screen input => exact Session.keeps_answer screen input
  | type input =>
    refine keeps_get.bind fun t _ ↦ ?_
    split
    · exact Session.keeps_answer _ input
    · exact keeps_throw trivial
  | click id shift =>
    refine keeps_get.bind fun t _ ↦ ?_
    split
    · exact keeps_throw trivial
    · split
      · exact Session.keeps_work _
      · exact keeps_throw trivial

namespace Session

variable {s : Session} {id : String} {screen : Screen}

/-- The reveal that showing a screen leaves, whether it succeeds or fails. -/
def restarted (s : Session) (id : String) (screen : Screen) : ScreenRun :=
  let run := .start id (screen.revealEntries s.document.config.speed)
  match Mutation.applyAll screen.immediateMutations s.world with
  | .ok _ world => (run.advance (s.measure screen) world).2.1
  | .error _ _ => run

/-- Showing a screen replaces the reveal even if it fails. -/
theorem run_of_activate_eq_error (h : s.document.screen? id = some screen) {e : SessionError}
    {t : Session} (failed : activate id s = .error e t) :
    t.run = some (s.restarted id screen) ∧ t.dialog = s.dialog := by
  rw [activate_of_screen h, bind_eq_error_iff] at failed
  unfold restarted
  rcases failed with failed | ⟨_, u, changed, failed⟩
  · unfold work at failed
    simp only at failed
    split at failed
    · cases failed
    · next hw =>
      cases failed
      rw [hw]
      exact ⟨rfl, rfl⟩
  · unfold work at changed
    simp only at changed
    split at changed
    · next hw =>
      cases changed
      rw [hw]
      have failed := error_of_bind_pure failed
      rw [advance_of_screen rfl h] at failed
      split at failed
      · cases failed
      · cases failed
        exact ⟨rfl, rfl⟩
    · cases changed

/-- The session in which the last dialog of some signals is open. -/
def opened (s : Session) (signals : List Signal) : Session :=
  { s with dialog := (Signal.dialogs signals).getLast?.or s.dialog }

/-- Signals cannot be followed when one of their dialogs does not exist. The first such one is
named, and nothing is changed. -/
theorem follow_of_find?_eq_some {signals : List Signal} {dialog : String}
    (hf : ((Signal.dialogs signals).find? fun dialog ↦ (s.document.dialog? dialog).isNone) =
      some dialog) : follow signals s = .error (.unknownDialog dialog) s := by
  unfold follow
  rw [get_bind, hf]
  rfl

private theorem follow_of_missing {signals : List Signal}
    (h : ∃ dialog ∈ Signal.dialogs signals, s.document.dialog? dialog = none) :
    ∃ dialog, follow signals s = .error (.unknownDialog dialog) s := by
  cases hf : (Signal.dialogs signals).find? fun dialog ↦ (s.document.dialog? dialog).isNone with
  | none =>
    obtain ⟨dialog, hm, hd⟩ := h
    exact absurd (List.find?_eq_none.mp hf dialog hm) (by simp [hd])
  | some dialog => exact ⟨dialog, follow_of_find?_eq_some hf⟩

/-- Signals whose dialogs all exist open the last of them and show the last screen. -/
theorem follow_of_found {signals : List Signal}
    (h : ¬ ∃ dialog ∈ Signal.dialogs signals, s.document.dialog? dialog = none) :
    follow signals s =
      match Signal.lastScreen? signals with
      | some id => (do
          let _ ← activate id
          return () : Play Unit) (s.opened signals)
      | none => .ok () (s.opened signals) := by
  have hf : ((Signal.dialogs signals).find? fun id ↦ (s.document.dialog? id).isNone) = none := by
    refine List.find?_eq_none.mpr fun id hm hd ↦ h ⟨id, hm, ?_⟩
    simpa using hd
  unfold follow opened
  rw [get_bind, hf]
  cases (Signal.dialogs signals).getLast? <;> cases Signal.lastScreen? signals <;> rfl

/-- What signals must come to for a session to show the same after they could not be followed: some
dialog does not exist, or else the last one is open already and the reveal of the last screen,
should it exist, is just the one that shows. -/
def StaysAfter (s : Session) (signals : List Signal) : Prop :=
  (∃ dialog ∈ Signal.dialogs signals, s.document.dialog? dialog = none) ∨
    (∀ dialog, (Signal.dialogs signals).getLast? = some dialog → s.dialog = some dialog) ∧
      ∀ id screen, Signal.lastScreen? signals = some id → s.document.screen? id = some screen →
        s.run = some (s.restarted id screen)

/-- Signals that cannot be followed leave what shows exactly in the cases that are known. -/
theorem showsAs_follow_iff {signals : List Signal} {e : SessionError} {t : Session}
    (failed : follow signals s = .error e t) :
    (t.run = s.run ∧ t.dialog = s.dialog) ↔ s.StaysAfter signals := by
  by_cases missing : ∃ dialog ∈ Signal.dialogs signals, s.document.dialog? dialog = none
  · obtain ⟨dialog, hf⟩ := follow_of_missing missing
    rw [hf] at failed
    cases failed
    exact ⟨fun _ ↦ .inl missing, fun _ ↦ ⟨rfl, rfl⟩⟩
  · rw [follow_of_found missing] at failed
    have same : (s.opened signals).dialog = s.dialog ↔
        ∀ dialog, (Signal.dialogs signals).getLast? = some dialog → s.dialog = some dialog := by
      cases hl : (Signal.dialogs signals).getLast? with
      | none => simp [opened, hl]
      | some dialog => simp [opened, hl, eq_comm]
    cases hl : Signal.lastScreen? signals with
    | none =>
      rw [hl] at failed
      cases failed
    | some id =>
      rw [hl] at failed
      -- with every dialog there, only showing the screen is left to fail
      have failed : activate id (s.opened signals) = .error e t := error_of_bind_pure failed
      rw [StaysAfter, or_iff_right missing, ← same, hl]
      cases hd : s.document.screen? id with
      | none =>
        rw [activate_of_none (s := s.opened signals) hd] at failed
        cases failed
        constructor
        · rintro ⟨-, kept⟩
          refine ⟨kept, fun id' screen he hd' ↦ ?_⟩
          cases he
          rw [hd] at hd'
          cases hd'
        · exact fun h ↦ ⟨rfl, h.1⟩
      | some screen =>
        obtain ⟨hrun, hdialog⟩ := run_of_activate_eq_error (s := s.opened signals) hd failed
        rw [hrun, hdialog]
        constructor
        · rintro ⟨shown, kept⟩
          refine ⟨kept, fun id' screen' he hd' ↦ ?_⟩
          cases he
          rw [hd] at hd'
          cases hd'
          exact shown.symm
        · exact fun h ↦ ⟨(h.2 id screen rfl hd).symm, h.1⟩

end Session

/-- A request after whose action, if it succeeds, a session shows the same even when the signals
cannot be followed. -/
def Request.Stays (r : Request) (s : Session) : Prop :=
  ∀ signals t, r.act s = .ok signals t → t.StaysAfter signals

/-- A request that fails leaves the screen, its reveal and the open dialog exactly when its action
fails, or one of the dialogs does not exist, or else neither another dialog is opened nor another
reveal is started before the failure. -/
theorem Request.shown_unchanged_iff {r : Request} {s t : Session} {e : SessionError}
    (failed : r.play s = .error e t) :
    (t.screenId? = s.screenId? ∧ t.run = s.run ∧ t.dialog = s.dialog) ↔ r.Stays s := by
  have screen_eq : t.run = s.run → t.screenId? = s.screenId? := by
    intro h
    rw [Session.screenId?, Session.screenId?, h]
  rw [r.play_eq, bind_eq_error_iff] at failed
  rcases failed with failed | ⟨signals, u, acted, failed⟩
  · have kept := ((r.keeps_act s).of_error ⟨rfl, rfl, rfl⟩ failed).1
    constructor
    · intro _ signals u acted
      rw [failed] at acted
      cases acted
    · exact fun _ ↦ ⟨screen_eq kept.run_eq, kept.run_eq, kept.dialog_eq⟩
  · have kept := ((r.keeps_act s).of_ok ⟨rfl, rfl, rfl⟩ acted).1
    have followed : Session.follow signals u = .error e t := error_of_bind_pure failed
    have stays : r.Stays s ↔ u.StaysAfter signals := by
      constructor
      · exact fun h ↦ h signals u acted
      · intro h signals' u' acted'
        rw [acted] at acted'
        cases acted'
        exact h
    rw [stays, ← Session.showsAs_follow_iff followed, kept.run_eq, kept.dialog_eq]
    exact ⟨fun h ↦ h.2, fun h ↦ ⟨screen_eq h.1, h⟩⟩

namespace Vault

/-- Going through the door fails, and the action is not what fails. -/
theorem not_stays_door :
    ∃ e t, (Request.click "door" false).play (opening.after .begin) = .error e t ∧
      ¬ (Request.click "door" false).Stays (opening.after .begin) := by
  refine ⟨_, _, rfl, fun stays ↦ ?_⟩
  have same := ((Request.click "door" false).shown_unchanged_iff (s := opening.after .begin)
    rfl).mpr stays
  exact absurd same.1 (by decide)

/-- A click on the door of the hall fails and leaves the vault on the screen. -/
theorem vault_shown_after_failure :
    setup.session = .ok opening ∧ (opening.after .begin).screenId? = some "hall" ∧
      ∃ e t, (Request.click "door" false).play (opening.after .begin) = .error e t ∧
        t.screenId? = some "vault" ∧ t.run ≠ (opening.after .begin).run :=
  ⟨session_setup, rfl, _, _, rfl, rfl, by decide⟩

end Vault

end Teletype
