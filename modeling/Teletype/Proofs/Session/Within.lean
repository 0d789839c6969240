import Teletype.Proofs.Command.Choice
import Teletype.Proofs.Document.Reach
import Teletype.Proofs.Session.Report
import Teletype.Proofs.Session.Resume
import Teletype.Proofs.Session.Signal
/-!
# What a session stays within

Whatever a host calls and whatever fails, a session keeps its document and the commands of its host,
what shows is a reveal of a screen of the document, an open dialog is one of the document, and the
columns are those that the host offered last. If certain screens lead only to one another and the
host asks for no other one, no other one ever shows. All this also holds at every moment within a
call at which the reveal goes on.
-/

namespace Teletype

/-- What a session is held to: a document, the commands of the host, and the screens that may
show. -/
structure Bounds where
  document : Document
  commands : List Command
  Allowed : String → Prop

namespace Bounds

/-- Asking for a screen shows at most one that may show. -/
def Admits (b : Bounds) (id : String) : Prop := (b.document.screen? id).isSome = true → b.Allowed id

/-- The screens that may show and the commands of the host lead only to screens that may show. -/
structure Closed (b : Bounds) : Prop where
  links : ∀ {id : String} {screen : Screen}, b.Allowed id → b.document.screen? id = some screen →
    ∀ target, screen.LinksTo target → b.Admits target
  commands : ∀ c ∈ b.commands, ∀ target, c.action.LinksTo target → b.Admits target

end Bounds

namespace Call

/-- The columns that the host has offered last, given those from before a call. -/
def offered (before : Nat) : Call → Nat
  | resize columns => columns
  | _ => before

/-- Whether a call asks for no screen but those that may show. -/
def Respects (b : Bounds) : Call → Prop
  | activate id | request (.typeOn id _) => b.Admits id
  | _ => True

/-- Only a call for other columns changes what the host has offered. -/
theorem exists_resize {c : Call} {budget : Nat} (h : c.offered budget ≠ budget) :
    ∃ columns, c = .resize columns := by
  cases c with
  | resize columns => exact ⟨columns, rfl⟩
  | begin | activate | request | tick | tickBy | skip | flip | dismiss | restore | write =>
    exact absurd rfl h

end Call

/-- A reveal that operations have led to from the start of a screen of a document. -/
structure ScreenRun.BeganOn (d : Document) (screen : Screen) (run : ScreenRun) : Prop where
  found : d.screen? run.screen = some screen
  from_start : ∃ steps,
    run = (ScreenRun.start run.screen (screen.revealEntries d.config.speed)).stepAll steps

namespace ScreenRun

variable {d : Document} {screen : Screen} {run : ScreenRun}

/-- The start of a screen is where every reveal of it begins. -/
theorem beganOn_start {id : String} (found : d.screen? id = some screen) :
    (start id (screen.revealEntries d.config.speed)).BeganOn d screen :=
  ⟨found, [], rfl⟩

/-- Operations lead on from where others have led to. -/
theorem BeganOn.step (h : run.BeganOn d screen) (op : RevealStep) :
    (run.step op).BeganOn d screen := by
  obtain ⟨steps, from_start⟩ := h.from_start
  refine ⟨run.screen_step op ▸ h.found, steps ++ [op], ?_⟩
  rw [run.screen_step op, stepAll_concat, ← from_start]

/-- A reveal that has begun on a screen is one of that screen. -/
theorem BeganOn.isOf (h : run.BeganOn d screen) : run.IsOf d screen := by
  obtain ⟨steps, from_start⟩ := h.from_start
  refine ⟨h.found, ?_⟩
  have staged := staged_stepAll run.screen (screen.revealEntries d.config.speed) steps
  rwa [← from_start] at staged

end ScreenRun

namespace Session

/-- A session that keeps to its bounds, with the columns that the host has offered last. -/
structure Within (b : Bounds) (budget : Nat) (s : Session) : Prop where
  document_eq : s.document = b.document
  commands_eq : s.dispatcher.hostCommands = b.commands
  columns_eq : s.columns = b.document.config.clampColumns budget
  start_admitted : b.Admits s.start
  shown : ∀ run, s.run = some run → b.Allowed run.screen ∧ ∃ screen, run.BeganOn b.document screen
  dialog_known : ∀ id, s.dialog = some id → (b.document.dialog? id).isSome = true

variable {b : Bounds} {budget : Nat} {s : Session}

namespace Within

/-- A session that is offered other columns keeps to its bounds with these. -/
theorem resize (h : s.Within b budget) (columns : Nat) : (s.resize columns).Within b columns := by
  refine ⟨h.document_eq, h.commands_eq, ?_, h.start_admitted, h.shown, h.dialog_known⟩
  rw [Session.resize, h.document_eq]

/-- Other variables, toggles and draws keep to the bounds. -/
theorem with_world (h : s.Within b budget) (world : World) :
    ({ s with world } : Session).Within b budget :=
  ⟨h.document_eq, h.commands_eq, h.columns_eq, h.start_admitted, h.shown, h.dialog_known⟩

/-- Another reveal of a screen that may show keeps to the bounds. -/
theorem with_run (h : s.Within b budget) {run : ScreenRun} (allowed : b.Allowed run.screen)
    {screen : Screen} (began : run.BeganOn b.document screen) (world : World) :
    ({ s with run := some run, world } : Session).Within b budget :=
  ⟨h.document_eq, h.commands_eq, h.columns_eq, h.start_admitted,
    fun _ he ↦ Option.some.inj he ▸ ⟨allowed, screen, began⟩, h.dialog_known⟩

/-- Operations on the reveal that shows keep to the bounds. -/
theorem with_step (h : s.Within b budget) {run : ScreenRun} (shown : s.run = some run)
    (op : RevealStep) (world : World) {t : Session} (ht : t.Within b budget) :
    ({ t with run := some (run.step op), world } : Session).Within b budget := by
  obtain ⟨allowed, screen, began⟩ := h.shown run shown
  exact ht.with_run (run.screen_step op ▸ allowed) (began.step op) world

/-- An open dialog of the document keeps to the bounds. -/
theorem with_dialog (h : s.Within b budget) {dialog : Option String}
    (known : ∀ id, dialog = some id → (b.document.dialog? id).isSome = true) :
    ({ s with dialog } : Session).Within b budget :=
  ⟨h.document_eq, h.commands_eq, h.columns_eq, h.start_admitted, h.shown, known⟩

/-- Other patterns that have been read keep to the bounds. -/
theorem with_dispatcher (h : s.Within b budget) {dispatcher : Dispatcher}
    (same : dispatcher.hostCommands = b.commands) (world : World) :
    ({ s with dispatcher, world } : Session).Within b budget :=
  ⟨h.document_eq, same, h.columns_eq, h.start_admitted, h.shown, h.dialog_known⟩

/-- The screen that shows is found, and the reveal has begun on it. -/
theorem exists_screen (h : s.Within b budget) {run : ScreenRun} (shown : s.run = some run) :
    ∃ screen, s.document.screen? run.screen = some screen ∧ run.BeganOn b.document screen := by
  obtain ⟨-, screen, began⟩ := h.shown run shown
  exact ⟨screen, h.document_eq ▸ began.found, began⟩

end Within

/-- Playing that keeps to the bounds. -/
abbrev KeepsTo {α : Type} (b : Bounds) (budget : Nat) (gives : α → Prop) (x : Play α) : Prop :=
  Keeps (Within b budget) (fun _ ↦ True) gives x

/-- Two ways of playing that do the same within the bounds and keep to them. -/
abbrev AlikeWithin {α : Type} (b : Bounds) (budget : Nat) (x y : Play α) : Prop :=
  Alike (Within b budget) (fun _ ↦ True) x y

/-! ## Going on with a reveal -/

/-- Going on with a reveal keeps to the bounds. -/
theorem within_advance : KeepsTo b budget (fun _ ↦ True) advance := by
  intro s hs
  cases hr : s.run with
  | none =>
    rw [advance_of_no_run hr]
    exact ⟨hs, trivial⟩
  | some run =>
    obtain ⟨screen, found, -⟩ := hs.exists_screen hr
    have later := hs.with_step hr (.advance (s.measure screen) s.world)
      (run.advance (s.measure screen) s.world).2.2 hs
    rw [advance_of_screen hr found]
    cases ho : (run.advance (s.measure screen) s.world).1 <;> exact ⟨later, trivial⟩

/-- Within the bounds the screen that shows and its items are there whenever the reveal goes on, so
what stands in for want of them does not matter. -/
theorem alike_advanceOr (lost : Play (List LifecycleEvent))
    (absent : String → EStateM SessionError World Nat) :
    AlikeWithin b budget (advanceOr lost absent) advance := by
  refine ⟨fun s hs ↦ ?_, within_advance⟩
  cases hr : s.run with
  | none =>
    rw [advance_of_no_run hr]
    simp only [advanceOr, hr]
  | some run =>
    obtain ⟨screen, found, began⟩ := hs.exists_screen hr
    refine advanceOr_of_found hr found fun item member ↦ ?_
    have listed : item.id ∈ screen.items.map Item.id := by
      rw [← began.isOf.map_id]
      exact List.mem_map_of_mem member
    obtain ⟨other, hm, same⟩ := List.mem_map.mp listed
    rw [Screen.item?, List.find?_isSome]
    exact ⟨other, hm, by simp [same]⟩

section Via

variable {resume : Play (List LifecycleEvent)} (going : AlikeWithin b budget resume advance)

/-- Work on the world keeps to the bounds. -/
theorem within_work {α : Type} {gives : α → Prop} {w : Work α}
    (h : Keeps (fun _ ↦ True) (fun _ ↦ True) gives w) : KeepsTo b budget gives (work w) := by
  intro s hs
  cases hw : w s.world with
  | ok a world =>
    simp only [work, hw]
    exact ⟨hs.with_world world, (h.of_ok trivial hw).2⟩
  | error e world =>
    simp only [work, hw]
    exact ⟨hs.with_world world, trivial⟩

include going

/-- Showing a screen that may show is alike within the bounds. -/
theorem alike_activate {id : String} (admitted : b.Admits id) :
    AlikeWithin b budget (activateVia resume id) (activate id) := by
  refine Alike.get_bind fun s hs ↦ ?_
  rw [hs.document_eq]
  cases hd : b.document.screen? id with
  | none => exact .of_keeps (keeps_throw trivial)
  | some screen =>
    have allowed : b.Allowed id := admitted (by simp [hd])
    have began := ScreenRun.beganOn_start hd
    refine Alike.modify_bind (fun t ht ↦ ht.with_run allowed began t.world) ?_
    refine (Alike.of_keeps (within_work (preserves_true _))).bind fun _ _ ↦ ?_
    exact going.bind fun _ _ ↦ .of_keeps (keeps_pure trivial)

/-- Time is alike within the bounds. -/
theorem alike_tickBy (elapsed : Duration) :
    AlikeWithin b budget (tickByVia resume elapsed) (tickBy elapsed) := by
  refine Alike.get_bind fun s hs ↦ ?_
  cases hr : s.run with
  | none => exact .of_keeps (keeps_pure trivial)
  | some run =>
    refine Alike.modify_bind (fun t ht ↦ hs.with_step hr (.tick elapsed) t.world ht) ?_
    exact going.bind fun _ _ ↦ .of_keeps (keeps_pure trivial)

/-- Showing active items fully is alike within the bounds. -/
theorem alike_skipSteps (fuel : Nat) :
    AlikeWithin b budget (skipStepsVia resume fuel) (skipSteps fuel) := by
  induction fuel with
  | zero => exact .of_keeps (keeps_pure trivial)
  | succ fuel ih =>
    refine Alike.get_bind fun s hs ↦ ?_
    cases hr : s.run with
    | none => exact .of_keeps (keeps_pure trivial)
    | some run =>
      simp only
      split
      · exact .of_keeps (keeps_pure trivial)
      · refine Alike.modify_bind (fun t ht ↦ hs.with_step hr .finish t.world ht) ?_
        exact going.bind fun _ _ ↦ ih.bind fun _ _ ↦ .of_keeps (keeps_pure trivial)

/-- Following signals that lead only to screens that may show is alike within the bounds. -/
theorem alike_follow {signals : List Signal} (admitted : Signal.LeadOnly b.Admits signals) :
    AlikeWithin b budget (followVia resume signals) (follow signals) := by
  refine Alike.get_bind fun s hs ↦ ?_
  rw [hs.document_eq]
  cases hf : (Signal.dialogs signals).find? fun id ↦ (b.document.dialog? id).isNone with
  | some id => exact .of_keeps (keeps_throw trivial)
  | none =>
    have opens : ∀ id, (Signal.dialogs signals).getLast? = some id →
        ∀ t : Session, t.Within b budget →
          ({ t with dialog := some id } : Session).Within b budget := by
      intro id hl t ht
      have := List.find?_eq_none.mp hf id (List.mem_of_getLast? hl)
      refine ht.with_dialog fun other he ↦ ?_
      cases he
      simpa [Option.isSome_iff_ne_none] using this
    cases hl : Signal.lastScreen? signals with
    | none =>
      cases hd : (Signal.dialogs signals).getLast? with
      | none => exact .of_keeps (keeps_pure trivial)
      | some id => exact Alike.modify_bind (opens id hd) (.of_keeps (keeps_pure trivial))
    | some screen =>
      have last : AlikeWithin b budget
          (do
            let _ ← activateVia resume screen
            return () : Play Unit)
          (do
            let _ ← activate screen
            return ()) :=
        (alike_activate going (admitted screen (Signal.mem_of_lastScreen? hl))).bind fun _ _ ↦
          .of_keeps (keeps_pure trivial)
      cases hd : (Signal.dialogs signals).getLast? with
      | none => exact last
      | some id => exact Alike.modify_bind (opens id hd) last

end Via

/-! ## Acting -/

/-- Acting that keeps to the bounds and leads only to screens that may show. -/
abbrev LeadsWithin (b : Bounds) (budget : Nat) (x : Play (List Signal)) : Prop :=
  KeepsTo b budget (Signal.LeadOnly b.Admits) x

section Act

variable (closed : b.Closed) {id : String} {screen : Screen}

include closed

/-- Running an input at a prompt of a screen that may show leads to screens that may show. -/
theorem within_dispatchAt (allowed : b.Allowed id) (found : b.document.screen? id = some screen)
    {p : Prompt} (prompt : screen.prompt? = some p) (input : String) :
    KeepsTo b budget (fun o ↦ Signal.LeadOnly b.Admits o.signals) (dispatchAt p input) := by
  intro s hs
  unfold dispatchAt
  rw [Dispatcher.dispatch_eq]
  have kept := (Dispatcher.hostCommands_choose s.dispatcher p input).trans hs.commands_eq
  cases hc : (s.dispatcher.choose p input).1 with
  | none => exact ⟨hs.with_dispatcher kept s.world, Signal.leadOnly_nil _⟩
  | some c =>
    have admitted : ∀ target, c.action.LinksTo target → b.Admits target := by
      intro target links
      rcases Dispatcher.mem_of_choose hc with member | ⟨-, member⟩
      · exact closed.links allowed found target (Screen.linksTo_of_prompt? prompt member links)
      · exact closed.commands c (hs.commands_eq ▸ member) target links
    have run := c.leadsOnly_run input
    simp only
    cases hw : c.run input s.world with
    | ok o world =>
      have leads := (run.of_ok trivial hw).2
      exact ⟨hs.with_dispatcher kept world, fun target hm ↦ admitted target (leads target hm)⟩
    | error e world => exact ⟨hs.with_dispatcher kept world, trivial⟩

/-- Answering an input on a screen that may show leads to screens that may show. -/
theorem within_answer (admitted : b.Admits id) (input : String) :
    LeadsWithin b budget (answer id input) := by
  refine keeps_get.bind fun s hs ↦ ?_
  rw [hs.document_eq]
  cases hd : b.document.screen? id with
  | none => exact keeps_throw trivial
  | some screen =>
    have allowed : b.Allowed id := admitted (by simp [hd])
    simp only
    cases hp : screen.prompt? with
    | none => exact keeps_pure (Signal.leadOnly_nil _)
    | some p =>
      exact (within_dispatchAt closed allowed hd hp input).bind fun _ ho ↦ keeps_pure ho

/-- Acting on what a player asks for leads to screens that may show. -/
theorem within_act (r : Request) (respects : (Call.request r).Respects b) :
    LeadsWithin b budget r.act := by
  cases r with
  | typeOn id input => exact within_answer closed respects input
  | type input =>
    refine keeps_get.bind fun s hs ↦ ?_
    cases hr : s.screenId? with
    | none => exact keeps_throw trivial
    | some id =>
      obtain ⟨run, hrun, rfl⟩ := Option.map_eq_some_iff.mp hr
      exact within_answer closed (fun _ ↦ (hs.shown run hrun).1) input
  | click id shift =>
    refine keeps_get.bind fun s hs ↦ ?_
    cases hi : s.item id with
    | error e => exact keeps_throw trivial
    | ok item =>
      obtain ⟨run, screen, hrun, found, member⟩ := exists_of_item hi
      rw [hs.document_eq] at found
      have admitted := closed.links (hs.shown run hrun).1 found
      simp only
      split
      · next text actions options hc =>
        refine within_work ((Action.leadsOnly_perform none _).weaken fun signals leads ↦ ?_)
        intro target hm
        exact admitted target ⟨item, member, _, hc ▸ .forClick shift, leads target hm⟩
      · exact keeps_throw trivial

end Act

/-! ## Calls -/

section Call

variable (closed : b.Closed) {c : Call} (respects : c.Respects b)

include closed respects

/-- A call that asks for no other screens and offers no other columns keeps to the bounds, and it
does the same with every way to go on that is alike within them. -/
theorem alike_play {resume : Play (List LifecycleEvent)}
    (going : AlikeWithin b budget resume advance)
    (same : c.offered budget = budget) :
    AlikeWithin b budget (c.playVia resume) c.play := by
  -- calls that cannot fail change a session and report nothing
  have quiet : ∀ f : Session → Session, (∀ s, s.Within b budget → (f s).Within b budget) →
      AlikeWithin b budget
        (do
          modify f
          return ([] : List LifecycleEvent) : Play (List LifecycleEvent))
        (do
          modify f
          return []) :=
    fun f hf ↦ Alike.modify_bind hf (.of_keeps (keeps_pure trivial))
  cases c with
  | begin => exact Alike.get_bind fun s hs ↦ alike_activate going hs.start_admitted
  | activate id => exact alike_activate going respects
  | request r =>
    rw [Call.playVia, Call.play, r.play_eq, Request.playVia]
    have follows : AlikeWithin b budget
        (do
          let signals ← r.act
          followVia resume signals
          return signals)
        (do
          let signals ← r.act
          follow signals
          return signals) :=
      (Alike.of_keeps (within_act closed r respects)).bind fun _ admitted ↦
        (alike_follow going admitted).bind fun _ _ ↦ .of_keeps (keeps_pure trivial)
    exact follows.bind fun _ _ ↦ .of_keeps (keeps_pure trivial)
  | tick => exact Alike.get_bind fun s _ ↦ alike_tickBy going s.tickInterval
  | tickBy elapsed => exact alike_tickBy going elapsed
  | skip => exact Alike.get_bind fun _ _ ↦ alike_skipSteps going _
  | flip item => exact quiet _ fun s hs ↦ hs.with_world _
  | dismiss => exact quiet _ fun s hs ↦ hs.with_dialog (by simp)
  | resize columns => exact quiet _ fun s hs ↦ same ▸ hs.resize columns
  | restore saved => exact quiet _ fun s hs ↦ hs.with_world _
  | write store => exact quiet _ fun s hs ↦ hs.with_world _

/-- A call does the same with every way to go on that is alike within the bounds. -/
theorem Within.playVia_eq {resume : Play (List LifecycleEvent)}
    (going : AlikeWithin b budget resume advance) (h : s.Within b budget) :
    c.playVia resume s = c.play s := by
  by_cases same : c.offered budget = budget
  · exact (alike_play closed respects going same).same s h
  · obtain ⟨columns, rfl⟩ := Call.exists_resize same
    rfl

/-- A session keeps to its bounds whether a call succeeds or fails. -/
theorem Within.after (h : s.Within b budget) : (s.after c).Within b (c.offered budget) := by
  by_cases same : c.offered budget = budget
  · have keeps := (alike_play closed respects (.of_keeps within_advance) same).keeps
    rw [same, after_eq_leftBy]
    exact keeps.leftBy h
  · obtain ⟨columns, rfl⟩ := Call.exists_resize same
    exact h.resize columns

end Call

/-- A session keeps to its bounds throughout any calls that ask for no other screens. -/
theorem Within.afterAll (closed : b.Closed) (h : s.Within b budget) {calls : List Call}
    (respects : ∀ c ∈ calls, c.Respects b) :
    (s.afterAll calls).Within b (calls.foldl Call.offered budget) := by
  induction calls generalizing s budget with
  | nil => exact h
  | cons c calls ih =>
    obtain ⟨first, rest⟩ := List.forall_mem_cons.mp respects
    exact ih (h.after closed first) rest

/-! ## Setting up -/

/-- A session that has just been set up keeps to its bounds if the screen to begin with may show. -/
theorem within_of_session {setup : Setup} {settings : Settings}
    (document : setup.ownDocument = .ok b.document) (commands : setup.hostCommands = b.commands)
    (own : setup.ownSettings = .ok settings)
    (start : ∀ id, Setup.startScreen settings b.document = .ok id → b.Admits id)
    (h : setup.session = .ok s) : s.Within b (setup.overriding settings).columns := by
  obtain ⟨found, opens⟩ := Setup.exists_opensFrom h
  cases own.symm.trans opens.own
  have same : s.document = b.document := Except.ok.inj (opens.document.symm.trans document)
  refine ⟨same, ?_, ?_, ?_, by simp [opens.run], by simp [opens.dialog]⟩
  · rw [opens.dispatcher]
    exact commands
  · rw [opens.columns, same]
  · exact start _ (same ▸ opens.start)

end Session

end Teletype
