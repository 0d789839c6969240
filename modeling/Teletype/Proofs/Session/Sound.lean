import Teletype.Proofs.Action.Sound
import Teletype.Proofs.Command.Choice
import Teletype.Proofs.Document.Tables
import Teletype.Proofs.Session.Advance
import Teletype.Proofs.Session.Call
import Teletype.Proofs.Session.Signal
/-!
# Playing a document without errors

However a session of a document without errors is played, it never misses a screen or a dialog and
never meets a step or a rule that cannot be carried out. What carries this through a run is that the
screen that shows is one of the document; every step that the session comes to is then one that the
check has seen.
-/

namespace Teletype

/-- A failure for which the document is to blame, and not the values that it meets. -/
def SessionError.IsFlaw : SessionError → Prop
  | .action e => e.IsFlaw
  | .unknownScreen _ | .unknownDialog _ => True
  | .format _ | .unknownItem .. | .noActiveScreen => False

namespace Session

/-- A session of a document, without commands of the host, that begins and stands on screens of the
document. -/
structure Guarded (d : Document) (s : Session) : Prop where
  document_eq : s.document = d
  commands_eq : s.dispatcher.hostCommands = []
  start_known : (d.screen? s.start).isSome = true
  shown_known : ∀ run, s.run = some run → (d.screen? run.screen).isSome = true

end Session

/-- Playing that keeps a session guarded and fails only where the document is not to blame. -/
abbrev Play.Sound {α : Type} (d : Document) (gives : α → Prop) (x : Play α) : Prop :=
  Keeps (Session.Guarded d) (fun e : SessionError ↦ ¬ e.IsFlaw) gives x

namespace Session

variable {d : Document}

/-- Other variables, toggles and draws leave a session guarded. -/
theorem Guarded.with_world {s : Session} (h : s.Guarded d) (world : World) :
    ({ s with world } : Session).Guarded d :=
  ⟨h.document_eq, h.commands_eq, h.start_known, h.shown_known⟩

/-- A reveal of a screen of the document leaves a session guarded. -/
theorem Guarded.with_run {s : Session} (h : s.Guarded d) {run : ScreenRun}
    (known : (d.screen? run.screen).isSome = true) (world : World) :
    ({ s with run := some run, world } : Session).Guarded d :=
  ⟨h.document_eq, h.commands_eq, h.start_known, fun _ he ↦ Option.some.inj he ▸ known⟩

/-- An open dialog leaves a session guarded. -/
theorem Guarded.with_dialog {s : Session} (h : s.Guarded d) (dialog : Option String) :
    ({ s with dialog } : Session).Guarded d :=
  ⟨h.document_eq, h.commands_eq, h.start_known, h.shown_known⟩

/-- Sound work on the world is sound playing. -/
theorem sound_work {α : Type} {gives : α → Prop} {w : Work α} (h : Work.Sound gives w) :
    Play.Sound d gives (work w) := by
  intro s hs
  cases hw : w s.world with
  | ok a world =>
    simp only [work, hw]
    exact ⟨hs.with_world world, (h.of_ok trivial hw).2⟩
  | error e world =>
    simp only [work, hw]
    exact ⟨hs.with_world world, (h.of_error trivial hw).2⟩

/-- The items of a screen that is found in a sound document are sound. -/
theorem isSound_of_screen? (sound : d.IsSound) {id : String} {screen : Screen}
    (h : d.screen? id = some screen) : ∀ item ∈ screen.items, item.content.IsSound d :=
  sound screen (Document.mem_of_screen? h)

private theorem isSound_of_mem_immediateMutations {screen : Screen}
    (h : ∀ item ∈ screen.items, item.content.IsSound d) :
    ∀ change ∈ screen.immediateMutations, change.2.IsSound := by
  intro change hc
  obtain ⟨item, hm, hi⟩ := List.mem_filterMap.mp hc
  split at hi
  · next target m _ hcontent =>
    cases hi
    exact (h item hm).mutation target m hcontent
  · cases hi

/-- Measuring sound items fails only where the document is not to blame. -/
theorem sound_measure {screen : Screen} (h : ∀ item ∈ screen.items, item.content.IsSound d)
    (s : Session) (id : String) :
    Keeps (fun _ ↦ True) (fun e : SessionError ↦ ¬ e.IsFlaw) (fun _ ↦ True)
      (s.measure screen id) := by
  intro w _
  cases hi : screen.item? id with
  | none =>
    rw [measure_of_none hi]
    exact ⟨trivial, trivial⟩
  | some item =>
    cases hc : item.content.isMutation with
    | false =>
      rw [measure_of_laid hi hc]
      cases (s.stage w).layout item <;> simp [SessionError.IsFlaw]
    | true =>
      obtain ⟨target, m, hm⟩ := Content.exists_of_isMutation hc
      have sound := (h item (List.mem_of_find?_eq_some hi)).mutation target m hm
      rw [measure_of_mutate hi hm]
      cases hw : m.apply target none w with
      | ok _ w => exact ⟨trivial, trivial⟩
      | error e w => exact (sound.sound_apply target none).of_error trivial hw

private theorem isSound_of_prompt? {screen : Screen} (h : ∀ item ∈ screen.items, item.content.IsSound d)
    {p : Prompt} (hp : screen.prompt? = some p) : ∀ c ∈ p.commands, c.action.IsSound d := by
  obtain ⟨item, hm, hc⟩ := Screen.exists_of_prompt? hp
  intro c hmem
  exact (h item hm).actions c.action (by simpa [hc, Content.actions] using ⟨c, hmem, rfl⟩)

private theorem sound_forClick {content : Content} (h : content.IsSound d) {text : String}
    {actions : LinkActions} {options : TextOptions} (hc : content = .link text actions options)
    (shift : Bool) : (actions.forClick shift).IsSound d := by
  have all := h.actions
  rw [hc] at all
  obtain ⟨base, alternative⟩ := actions
  cases shift <;> cases alternative <;>
    simp_all [LinkActions.forClick, Content.actions]

private theorem not_isFlaw_of_item {s : Session} {id : String} {e : SessionError}
    (h : s.item id = .error e) : ¬ e.IsFlaw := by
  unfold item at h
  split at h
  · cases h
    exact not_false
  · split at h
    · cases h
    · cases h
      exact not_false

/-- Running an input at a sound prompt is sound, and what it signals leads to what exists. -/
theorem sound_dispatchAt {p : Prompt} (h : ∀ c ∈ p.commands, c.action.IsSound d) (input : String) :
    Play.Sound d (fun o ↦ ∀ signal ∈ o.signals, signal.Leads d) (dispatchAt p input) := by
  intro s hs
  unfold dispatchAt
  rw [Dispatcher.dispatch_eq]
  have kept := (Dispatcher.hostCommands_choose s.dispatcher p input).trans hs.commands_eq
  rcases hc : s.dispatcher.choose p input with ⟨_ | c, after⟩
  · rw [hc] at kept
    exact ⟨⟨hs.document_eq, kept, hs.start_known, hs.shown_known⟩, fun _ hm ↦ by cases hm⟩
  · rw [hc] at kept
    -- without commands of the host the one that runs stands at the prompt
    have hm : c ∈ p.commands := by
      have := Dispatcher.mem_of_choose (congrArg Prod.fst hc)
      simpa [hs.commands_eq] using this
    have run := Command.sound_run (h c hm) input
    simp only
    cases hw : c.run input s.world with
    | ok o world =>
      exact ⟨⟨hs.document_eq, kept, hs.start_known, hs.shown_known⟩, (run.of_ok trivial hw).2⟩
    | error e world =>
      exact ⟨⟨hs.document_eq, kept, hs.start_known, hs.shown_known⟩, (run.of_error trivial hw).2⟩

section Reveal

variable {d : Document} (sound : d.IsSound)

include sound

/-- Going on with a reveal is sound. -/
theorem sound_advance : Play.Sound d (fun _ ↦ True) advance := by
  intro s hs
  cases hr : s.run with
  | none =>
    rw [advance_of_no_run hr]
    exact ⟨hs, trivial⟩
  | some run =>
    cases hd : d.screen? run.screen with
    | none =>
      rw [advance_of_no_screen hr (hs.document_eq ▸ hd)]
      exact ⟨hs, trivial⟩
    | some screen =>
      have measures := sound_measure (isSound_of_screen? sound hd) s
      rw [advance_of_screen hr (hs.document_eq ▸ hd)]
      have guarded : ({ s with
          run := some (run.advance (s.measure screen) s.world).2.1
          world := (run.advance (s.measure screen) s.world).2.2 } : Session).Guarded d :=
        hs.with_run (by simpa using hs.shown_known run hr) _
      cases ho : (run.advance (s.measure screen) s.world).1 with
      | ok events => exact ⟨guarded, trivial⟩
      | error e => exact ⟨guarded, ScreenRun.fails_of_advance measures run s.world ho⟩

private theorem isSound_of_item {s : Session} (hs : s.Guarded d) {id : String} {item : Item}
    (h : s.item id = .ok item) : item.content.IsSound d := by
  obtain ⟨run, screen, -, found, member⟩ := exists_of_item h
  rw [hs.document_eq] at found
  exact isSound_of_screen? sound found item member

/-- Showing a screen of the document is sound. -/
theorem sound_activate {id : String} (known : (d.screen? id).isSome = true) :
    Play.Sound d (fun _ ↦ True) (activate id) := by
  obtain ⟨screen, hd⟩ := Option.isSome_iff_exists.mp known
  have changes := Mutation.sound_applyAll
    (isSound_of_mem_immediateMutations (isSound_of_screen? sound hd))
  refine keeps_get.bind fun s hs ↦ ?_
  rw [hs.document_eq, hd]
  refine (keeps_modify fun t ht ↦ ht.with_run known t.world).bind fun _ _ ↦ ?_
  refine (sound_work changes).bind fun _ _ ↦ ?_
  exact (sound_advance sound).bind fun _ _ ↦ keeps_pure trivial

/-- Beginning is sound. -/
theorem sound_begin : Play.Sound d (fun _ ↦ True) begin :=
  keeps_get.bind fun _ hs ↦ sound_activate sound hs.start_known

/-- Letting time pass is sound. -/
theorem sound_tickBy (elapsed : Duration) : Play.Sound d (fun _ ↦ True) (tickBy elapsed) := by
  refine keeps_get.bind fun s hs ↦ ?_
  cases hr : s.run with
  | none => exact keeps_pure trivial
  | some run =>
    have known : (d.screen? (run.tick elapsed).1.screen).isSome = true := by
      simpa using hs.shown_known run hr
    refine (keeps_modify fun t ht ↦ ht.with_run known t.world).bind fun _ _ ↦ ?_
    exact (sound_advance sound).bind fun _ _ ↦ keeps_pure trivial

/-- A tick is sound. -/
theorem sound_tick : Play.Sound d (fun _ ↦ True) tick :=
  keeps_get.bind fun s _ ↦ sound_tickBy sound s.tickInterval

/-- Showing active items fully is sound. -/
theorem sound_skipSteps (fuel : Nat) : Play.Sound d (fun _ ↦ True) (skipSteps fuel) := by
  induction fuel with
  | zero => exact keeps_pure trivial
  | succ fuel ih =>
    refine keeps_get.bind fun s hs ↦ ?_
    cases hr : s.run with
    | none => exact keeps_pure trivial
    | some run =>
      have known : (d.screen? run.finishActive.1.screen).isSome = true := by
        simpa using hs.shown_known run hr
      simp only
      split
      · exact keeps_pure trivial
      · refine (keeps_modify fun t ht ↦ ht.with_run known t.world).bind fun _ _ ↦ ?_
        exact (sound_advance sound).bind fun _ _ ↦ ih.bind fun _ _ ↦ keeps_pure trivial

/-- Ending a reveal is sound. -/
theorem sound_skip : Play.Sound d (fun _ ↦ True) skip :=
  keeps_get.bind fun _ _ ↦ sound_skipSteps sound _

/-- Following signals that lead to what exists is sound. -/
theorem sound_follow {signals : List Signal} (h : ∀ signal ∈ signals, signal.Leads d) :
    Play.Sound d (fun _ ↦ True) (follow signals) := by
  have shown : ∀ id, Signal.lastScreen? signals = some id → (d.screen? id).isSome = true :=
    fun _ hl ↦ h _ (Signal.mem_of_lastScreen? hl)
  have opened : ∀ s : Session, s.Guarded d →
      (Signal.dialogs signals).find? (fun id ↦ (s.document.dialog? id).isNone) = none := by
    intro s hs
    refine List.find?_eq_none.mpr fun id hid ↦ ?_
    have := h _ (Signal.mem_dialogs.mp hid)
    simpa [hs.document_eq, Signal.Leads, Option.isSome_iff_ne_none] using this
  refine keeps_get.bind fun s hs ↦ ?_
  rw [opened s hs]
  cases hl : Signal.lastScreen? signals with
  | none =>
    cases (Signal.dialogs signals).getLast? with
    | none => exact keeps_pure trivial
    | some id =>
      exact (keeps_modify fun _ ht ↦ ht.with_dialog (some id)).bind fun _ _ ↦ keeps_pure trivial
  | some screen =>
    have last : Play.Sound d (fun _ ↦ True) (do
        let _ ← activate screen
        return ()) :=
      (sound_activate sound (shown screen hl)).bind fun _ _ ↦ keeps_pure trivial
    cases (Signal.dialogs signals).getLast? with
    | none => exact last
    | some id => exact (keeps_modify fun _ ht ↦ ht.with_dialog (some id)).bind fun _ _ ↦ last

/-- Running an input on a screen of the document is sound. -/
theorem sound_dispatch {id : String} (known : (d.screen? id).isSome = true) (input : String) :
    Play.Sound d (fun _ ↦ True) (dispatch id input) := by
  obtain ⟨screen, hd⟩ := Option.isSome_iff_exists.mp known
  refine keeps_get.bind fun s hs ↦ ?_
  rw [hs.document_eq, hd]
  simp only
  cases hp : screen.prompt? with
  | none => exact keeps_pure trivial
  | some p =>
    have commands := isSound_of_prompt? (isSound_of_screen? sound hd) hp
    refine (sound_dispatchAt commands input).bind fun o ho ↦ ?_
    exact (sound_follow sound ho).bind fun _ _ ↦ keeps_pure trivial

/-- Running an input on the screen that shows is sound. -/
theorem sound_submit (input : String) : Play.Sound d (fun _ ↦ True) (submit input) := by
  refine keeps_get.bind fun s hs ↦ ?_
  cases hr : s.screenId? with
  | none => exact keeps_throw not_false
  | some id =>
    obtain ⟨run, hrun, rfl⟩ := Option.map_eq_some_iff.mp hr
    exact sound_dispatch sound (hs.shown_known run hrun) input

/-- Following a link of the screen that shows is sound. -/
theorem sound_followLink (id : String) (shift : Bool) :
    Play.Sound d (fun _ ↦ True) (followLink id shift) := by
  refine keeps_get.bind fun s hs ↦ ?_
  cases hi : s.item id with
  | error e => exact keeps_throw (not_isFlaw_of_item hi)
  | ok item =>
    have content := isSound_of_item sound hs hi
    simp only
    split
    · next text actions options hc =>
      have action := sound_forClick content hc shift
      refine (sound_work (Action.sound_perform none _ action)).bind fun signals hs ↦ ?_
      exact (sound_follow sound hs).bind fun _ _ ↦ keeps_pure trivial
    · exact keeps_throw not_false

end Reveal

end Session

end Teletype
