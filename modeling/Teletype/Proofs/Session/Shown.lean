import Teletype.Proofs.Session.Chain
import Teletype.Proofs.Session.Signal
import Teletype.Proofs.Session.Stage
/-!
# What a request shows

A request carries out an action and then goes where its signals lead, however links and dialogs
alternate among them: the last link says which screen shows, and it is the only one that is shown;
the last dialog is the one that is open. One dialog that does not exist, wherever it stands, is
enough for nothing to be opened or shown.
-/

namespace Teletype

namespace Session

variable {s u t : Session} {signals : List Signal}

/-- What is known of a session after the signals of an action have been followed. The session in
which the action began is `s`, and `u` is the one that the action has left. -/
structure Follows (s u : Session) (signals : List Signal) (t : Session) : Prop where
  /-- The action by itself shows nothing and opens nothing. -/
  acted : s.ShowsAs u
  /-- The screen of the last link shows, and to show it is all that has been done to what the
  action has left, but for the dialog. -/
  navigated : ∀ before id after, signals = before ++ .navigate id :: after →
    (∀ other, Signal.navigate other ∉ after) →
    t.screenId? = some id ∧ ∃ events, activate id { u with dialog := t.dialog } = .ok events t
  /-- Without a link nothing is done to what the action has left, but for the dialog. -/
  stayed : (∀ other, Signal.navigate other ∉ signals) →
    t = { u with dialog := t.dialog } ∧ t.screenId? = s.screenId? ∧ t.run = s.run
  /-- The last dialog is open, and it is one of the document. -/
  opened : ∀ before id after, signals = before ++ .dialog id :: after →
    (∀ other, Signal.dialog other ∉ after) →
    t.dialog = some id ∧ (t.document.dialog? id).isSome = true
  /-- Without a dialog the one that was open before is. -/
  kept : (∀ other, Signal.dialog other ∉ signals) → t.dialog = s.dialog

/-- A screen that has been shown is the one that shows, in the same document and with the same
dialog. -/
theorem shown_of_activate {id : String} {events : List LifecycleEvent}
    (shown : activate id s = .ok events t) :
    t.document = s.document ∧ t.dialog = s.dialog ∧ t.screenId? = some id := by
  cases hd : s.document.screen? id with
  | none =>
    rw [activate_of_none hd] at shown
    cases shown
  | some screen =>
    have kept : ∀ (run : ScreenRun) op, run.screen = id → (run.step op).screen = id :=
      fun run op h ↦ (run.screen_step op).trans h
    have showing := showing_of_activate_eq_ok kept hd rfl shown
    obtain ⟨run, hrun, hscreen⟩ := showing.exists_run
    have same : t.screenId? = some id := by rw [screenId?, hrun, Option.map_some, hscreen]
    exact ⟨showing.document_eq, showing.dialog_eq, same⟩

section Follow

variable (ok : follow signals u = .ok () t)

include ok

private theorem dialogs_known_of_follow :
    ¬ ∃ dialog ∈ Signal.dialogs signals, u.document.dialog? dialog = none := by
  rintro ⟨dialog, hm, hd⟩
  cases hf : (Signal.dialogs signals).find? fun dialog ↦ (u.document.dialog? dialog).isNone with
  | none => exact absurd (List.find?_eq_none.mp hf dialog hm) (by simp [hd])
  | some first =>
    rw [follow_of_find?_eq_some hf] at ok
    cases ok

private theorem eq_opened_of_follow (h : Signal.lastScreen? signals = none) :
    t = u.opened signals := by
  rw [follow_of_found (dialogs_known_of_follow ok), h] at ok
  cases ok
  rfl

private theorem activate_of_follow {id : String} (h : Signal.lastScreen? signals = some id) :
    ∃ events, activate id (u.opened signals) = .ok events t := by
  rw [follow_of_found (dialogs_known_of_follow ok), h] at ok
  obtain ⟨events, v, shown, ok⟩ := bind_eq_ok_iff.mp ok
  cases ok
  exact ⟨events, shown⟩

private theorem frame_of_follow :
    t.document = u.document ∧ t.dialog = (u.opened signals).dialog := by
  cases hl : Signal.lastScreen? signals with
  | none =>
    rw [eq_opened_of_follow ok hl]
    exact ⟨rfl, rfl⟩
  | some id =>
    obtain ⟨events, shown⟩ := activate_of_follow ok hl
    obtain ⟨document, dialog, -⟩ := shown_of_activate shown
    exact ⟨document, dialog⟩

/-- Where signals that could be followed have led. -/
theorem follows_of_follow (acted : s.ShowsAs u) : s.Follows u signals t := by
  obtain ⟨document_eq, dialog_eq⟩ := frame_of_follow ok
  have opened_eq : u.opened signals = { u with dialog := t.dialog } := by
    rw [dialog_eq]
    rfl
  constructor
  case acted => exact acted
  case navigated =>
    rintro before id after rfl last
    obtain ⟨events, shown⟩ := activate_of_follow ok (Signal.lastScreen?_append_cons last)
    exact ⟨(shown_of_activate shown).2.2, events, opened_eq ▸ shown⟩
  case stayed =>
    intro h
    have same := eq_opened_of_follow ok (Signal.lastScreen?_eq_none h)
    have run_eq : t.run = s.run := by
      rw [same]
      exact acted.run_eq
    exact ⟨same.trans opened_eq, by rw [screenId?, screenId?, run_eq], run_eq⟩
  case opened =>
    rintro before id after rfl last
    have hlast : (Signal.dialogs (before ++ .dialog id :: after)).getLast? = some id :=
      Signal.getLast?_dialogs_append_cons last
    refine ⟨by rw [dialog_eq, Session.opened, hlast]; rfl, ?_⟩
    rw [document_eq, Option.isSome_iff_ne_none]
    exact fun missing ↦ dialogs_known_of_follow ok ⟨id, List.mem_of_getLast? hlast, missing⟩
  case kept =>
    intro h
    rw [dialog_eq, Session.opened, Signal.dialogs_eq_nil h]
    exact acted.dialog_eq

end Follow

end Session

/-- A request that succeeds shows the screen of the last link that its action comes to, and no other
one, with the last dialog open; without a link it leaves the screen with its reveal, and without a
dialog the one that was open. A request whose action comes to a dialog that does not exist fails
with the first such one, wherever it stands, and nothing is shown or opened. -/
theorem Request.follows_play (r : Request) (s : Session) :
    (∀ signals t, r.play s = .ok signals t →
      ∃ u, r.Gives s signals u.world ∧ s.Follows u signals t) ∧
    ∀ a before id behind after, r.action? s = some a →
      a.perform r.input? (r.world s) = .ok (before ++ .dialog id :: behind) after →
      (∀ other, Signal.dialog other ∈ before → (s.document.dialog? other).isSome = true) →
      s.document.dialog? id = none →
      ∃ u, r.play s = .error (.unknownDialog id) u ∧ u.world = after ∧
        u.screenId? = s.screenId? ∧ u.run = s.run ∧ u.dialog = s.dialog := by
  have still : s.ShowsAs s := ⟨rfl, rfl, rfl⟩
  constructor
  · intro signals t ok
    rw [r.play_eq] at ok
    obtain ⟨given, u, acted, ok⟩ := bind_eq_ok_iff.mp ok
    obtain ⟨⟨⟩, v, followed, ok⟩ := bind_eq_ok_iff.mp ok
    cases ok
    have kept := ((r.keeps_act s).of_ok still acted).1
    exact ⟨u, gives_of_act acted, Session.follows_of_follow followed kept⟩
  · intro a before id behind after ha performed known missing
    obtain ⟨u, acted, rfl⟩ := act_of_perform ha performed
    have kept := ((r.keeps_act s).of_ok still acted).1
    have first : ((Signal.dialogs (before ++ .dialog id :: behind)).find?
        fun dialog ↦ (u.document.dialog? dialog).isNone) = some id := by
      rw [kept.document_eq]
      exact Signal.find?_dialogs_append_cons
        (fun other hm ↦ by simpa [Option.isSome_iff_ne_none] using known other hm)
        (by simp [missing])
    refine ⟨u, ?_, rfl, ?_, kept.run_eq, kept.dialog_eq⟩
    · rw [r.play_eq, bind_of_ok acted, bind_of_error (Session.follow_of_find?_eq_some first)]
    · rw [Session.screenId?, Session.screenId?, kept.run_eq]

namespace Vault

/-- What the gate of the hall does: it leads on by several ways, of which the last one counts. -/
def passing : Action :=
  .chain [.link "hall" false, .dialog "warning", .link "vault" false, .dialog "welcome"]

/-- What the gate does for those in a hurry: one of the dialogs does not exist. -/
def hurrying : Action :=
  .chain [.dialog "warning", .dialog "farewell", .link "vault" false, .dialog "welcome"]

/-- The story with a gate in the hall. -/
def gated : Document :=
  { document with
    screens := [
      ⟨"hall", .screen, [⟨"gate", none, true, .link "" ⟨passing, some hurrying⟩ {}⟩]⟩,
      ⟨"vault", .screen, []⟩]
    dialogs := [⟨"warning", .alert, []⟩, ⟨"welcome", .alert, []⟩]
    dialogTable := ((∅ : IdTable).insert "warning" 0).insert "welcome" 1 }

/-- The session in which the hall with the gate shows. -/
def waiting : Session := ({ opening with document := gated } : Session).after .begin

/-- Through the gate lies the vault, with the welcome open; in a hurry one stays in the hall. -/
theorem follows_gate :
    (∃ t, (Request.click "gate" false).play waiting =
      .ok [.navigate "hall", .dialog "warning", .navigate "vault", .dialog "welcome"] t ∧
      t.screenId? = some "vault" ∧ t.dialog = some "welcome") ∧
    ∃ u, (Request.click "gate" true).play waiting = .error (.unknownDialog "farewell") u ∧
      u.screenId? = some "hall" ∧ u.dialog = none := by
  constructor
  · obtain ⟨t, played⟩ : ∃ t, (Request.click "gate" false).play waiting =
        .ok [.navigate "hall", .dialog "warning", .navigate "vault", .dialog "welcome"] t :=
      ⟨_, rfl⟩
    obtain ⟨u, -, led⟩ := ((Request.click "gate" false).follows_play waiting).1 _ t played
    refine ⟨t, played, ?_, ?_⟩
    · exact (led.navigated [.navigate "hall", .dialog "warning"] "vault" [.dialog "welcome"] rfl
        (by simp)).1
    · exact (led.opened [.navigate "hall", .dialog "warning", .navigate "vault"] "welcome" [] rfl
        (by simp)).1
  · have known : ∀ other, Signal.dialog other ∈ [Signal.dialog "warning"] →
        (waiting.document.dialog? other).isSome = true := by
      intro other hm
      cases List.mem_singleton.mp hm
      rfl
    obtain ⟨u, failed, -, screen, -, dialog⟩ :=
      ((Request.click "gate" true).follows_play waiting).2 hurrying [.dialog "warning"] "farewell"
        [.navigate "vault", .dialog "welcome"] waiting.world rfl rfl known rfl
    exact ⟨u, failed, screen, dialog⟩

end Vault

end Teletype
