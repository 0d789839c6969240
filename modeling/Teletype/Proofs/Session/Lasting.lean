import Teletype.Proofs.Action.Lasting
import Teletype.Proofs.Document.Reach
import Teletype.Proofs.Session.Chain
import Teletype.Proofs.Session.Stage
/-!
# What lasts in a world

The variables, toggles and draws of a session are changed by the items of its document, by the
actions of links and commands, and by the host. What each single change keeps of the world is kept
by every call, whether it succeeds or fails, and so throughout a run. Whatever fails to be laid out
on the way is an item of the document.
-/

namespace Teletype

/-- A passage keeps what each measure does. -/
theorem ScreenRun.keeps_pass {ε σ : Type} {p : σ → Prop} {measure : String → EStateM ε σ Nat}
    (h : ∀ id, Preserves p (measure id)) (items : List ItemProgress) {world : σ} (hw : p world) :
    p (pass measure items world).world := by
  induction items generalizing world with
  | nil => exact hw
  | cons item items ih =>
    by_cases hr : item.state = .ready
    · cases hm : measure item.id world with
      | error fault after =>
        rw [pass_cons_of_error measure hr hm]
        exact ((h item.id).of_error hw hm).1
      | ok length after =>
        have kept := ((h item.id).of_ok hw hm).1
        cases hi : item.isInstant length with
        | true =>
          rw [pass_cons_of_instant measure hr hm hi]
          exact ih kept
        | false =>
          rw [pass_cons_of_slow measure hr hm hi]
          exact kept
    · rw [pass_cons_of_not_ready measure hr]
      exact ih hw

/-- An advance keeps what each measure does. -/
theorem ScreenRun.keeps_advance {ε σ : Type} {p : σ → Prop} {measure : String → EStateM ε σ Nat}
    (h : ∀ id, Preserves p (measure id)) (run : ScreenRun) {world : σ} (hw : p world) :
    p (run.advance measure world).2.2 := by
  cases ha : run.active with
  | some place =>
    rw [advance_of_active measure ha]
    exact hw
  | none =>
    rw [advance_of_idle measure ha]
    exact keeps_pass h run.items hw

/-- Something of a world that the items of a document keep which change a variable by themselves. -/
def Document.ChangesKeep (d : Document) (p : World → Prop) : Prop :=
  ∀ item ∈ d.items, ∀ target m, item.content = .mutate target m → Preserves p (m.apply target none)

/-- Something of a world that a document and the commands of a host keep, whatever of them changes
the world. -/
structure World.Lasting (d : Document) (commands : List Command) (p : World → Prop) : Prop where
  /-- Items that change a variable by themselves. -/
  changes : ∀ item ∈ d.items, ∀ target m, item.content = .mutate target m →
    Preserves p (m.apply target none)
  /-- Steps that a player can start. -/
  steps : ∀ item ∈ d.items, ∀ step ∈ item.everyStep, ∀ lastCommand, step.Leaves lastCommand p
  host : ∀ c ∈ commands, ∀ step ∈ c.action.everyStep, ∀ lastCommand, step.Leaves lastCommand p
  /-- Inputs that are kept before they run a command. -/
  inputs : ∀ w input, p w → p { w with store := w.store.set lastCommandName (.text input) }
  /-- Toggles that the host flips. -/
  flips : ∀ w id, p w → p { w with toggles := w.toggles.flip id }

namespace World.Lasting

variable {d : Document} {commands : List Command} {p : World → Prop}
  (lasting : World.Lasting d commands p)

include lasting

/-- What lasts is kept by the steps of an action that an item offers. -/
theorem leaves_of_offers {item : Item} (member : item ∈ d.items) {a : Action}
    (offers : item.content.Offers a) (lastCommand : Option String) :
    ∀ step ∈ a.everyStep, step.Leaves lastCommand p := by
  intro step hs
  have started : step ∈ item.everyStep :=
    List.mem_flatMap.mpr ⟨a, Content.offers_iff.mp offers, hs⟩
  exact lasting.steps item member step started lastCommand

/-- What lasts is kept by the steps of a command that is chosen for an input. -/
theorem leaves_of_choose {dispatcher : Dispatcher} (same : dispatcher.hostCommands = commands)
    {screen : Screen} (known : screen ∈ d.screens) {q : Prompt} (prompt : screen.prompt? = some q)
    {input : String} {c : Command} (chosen : (dispatcher.choose q input).1 = some c)
    (lastCommand : Option String) :
    ∀ step ∈ c.action.everyStep, step.Leaves lastCommand p := by
  rcases Dispatcher.mem_of_choose chosen with member | ⟨-, member⟩
  · obtain ⟨item, hm, content⟩ := Screen.exists_of_prompt? prompt
    have offers : item.content.Offers c.action := content ▸ .command member
    exact lasting.leaves_of_offers (List.mem_flatMap.mpr ⟨screen, known, hm⟩) offers lastCommand
  · exact fun step hs ↦ lasting.host c (same ▸ member) step hs lastCommand

end World.Lasting

/-- Whether what a call itself does to the variables keeps something of the world. Most calls leave
that to the document. -/
def Call.Leaves (p : World → Prop) : Call → Prop
  | restore saved => ∀ w, p w → p { w with store := w.store.restore saved }
  | write store => ∀ w, p w → p { w with store }
  | _ => True

/-- The conditions that a request asks, each with the world in which it is asked. -/
def Request.asked (s : Session) (r : Request) : List (Condition × World) :=
  match r.action? s with
  | some a => a.asked r.input? (r.world s)
  | none => []

/-- A failure of a session of a document. If it is one of laying out, it is over an item that the
document has. -/
def SessionError.ComesFrom (d : Document) : SessionError → Prop
  | .format e => ∃ item ∈ d.items, ∃ stage : Stage, stage.layout item = .error e
  | .action _ | .unknownScreen _ | .unknownDialog _ | .unknownItem .. | .noActiveScreen => True

namespace Session

/-- A session of a document, with commands of the host, in whose world something holds. -/
structure Holding (d : Document) (commands : List Command) (p : World → Prop) (s : Session) :
    Prop where
  document_eq : s.document = d
  commands_eq : s.dispatcher.hostCommands = commands
  world : p s.world

/-- Playing that keeps something of the world of a session, and fails with what comes from its
document. -/
abbrev Lasts {α : Type} (d : Document) (commands : List Command) (p : World → Prop) (x : Play α) :
    Prop :=
  Keeps (Holding d commands p) (SessionError.ComesFrom d) (fun _ ↦ True) x

variable {d : Document} {commands : List Command} {p : World → Prop} {s : Session} {c : Call}

/-- Another world of which the same holds may take the place of the one that there is, whatever
shows. -/
theorem Holding.with_world (h : s.Holding d commands p) {world : World} (hw : p world)
    (run : Option ScreenRun) (dialog : Option String) :
    ({ s with world, run, dialog } : Session).Holding d commands p :=
  ⟨h.document_eq, h.commands_eq, hw⟩

/-- Work that keeps something of the world keeps it in a session. -/
theorem holding_work {α : Type} {w : Work α} (h : Preserves p w) :
    Lasts d commands p (work w) := by
  intro s hs
  cases hw : w s.world with
  | ok a world =>
    simp only [work, hw]
    exact ⟨hs.with_world (h.of_ok hs.world hw).1 _ _, trivial⟩
  | error e world =>
    simp only [work, hw]
    exact ⟨hs.with_world (h.of_error hs.world hw).1 _ _, trivial⟩

/-- A failure to find an item lays nothing out. -/
theorem comesFrom_of_item {id : String} {e : SessionError} (h : s.item id = .error e) :
    e.ComesFrom d := by
  unfold item at h
  split at h
  · cases h
    trivial
  · split at h <;> cases h
    trivial

/-- Measuring an item of the document fails over laying it out, or lays nothing out. -/
theorem comesFrom_measure {shown : String} {screen : Screen} (found : d.screen? shown = some screen)
    (s : Session) (id : String) :
    Keeps (fun _ ↦ True) (SessionError.ComesFrom d) (fun _ ↦ True) (s.measure screen id) := by
  intro w _
  cases hi : screen.item? id with
  | none =>
    rw [measure_of_none hi]
    exact ⟨trivial, trivial⟩
  | some item =>
    have member := Document.mem_items_of_screen? found (List.mem_of_find?_eq_some hi)
    cases hc : item.content.isMutation with
    | false =>
      rw [measure_of_laid hi hc]
      cases laid : (s.stage w).layout item with
      | ok text => exact ⟨trivial, trivial⟩
      | error e => exact ⟨trivial, item, member, s.stage w, laid⟩
    | true =>
      obtain ⟨target, m, hm⟩ := Content.exists_of_isMutation hc
      rw [measure_of_mutate hi hm]
      cases m.apply target none w <;> exact ⟨trivial, trivial⟩

section Changes

variable (changes : d.ChangesKeep p)

include changes

/-- Measuring an item of the document keeps what its changes of variables do. -/
theorem preserves_measure {shown : String} {screen : Screen} (found : d.screen? shown = some screen)
    (s : Session) (id : String) : Preserves p (s.measure screen id) := by
  intro w hw
  cases hi : screen.item? id with
  | none =>
    rw [measure_of_none hi]
    exact ⟨hw, trivial⟩
  | some item =>
    have member := Document.mem_items_of_screen? found (List.mem_of_find?_eq_some hi)
    cases hc : item.content.isMutation with
    | false =>
      rw [measure_of_laid hi hc]
      cases (s.stage w).layout item <;> exact ⟨hw, trivial⟩
    | true =>
      obtain ⟨target, m, hm⟩ := Content.exists_of_isMutation hc
      have kept := changes item member target m hm w hw
      rw [measure_of_mutate hi hm]
      cases ha : m.apply target none w with
      | ok _ after =>
        rw [ha] at kept
        exact kept
      | error e after =>
        rw [ha] at kept
        exact kept

/-- Going on with a reveal keeps what the changes among the items do. -/
theorem holding_advance : Lasts d commands p advance := by
  intro s hs
  cases hr : s.run with
  | none =>
    rw [advance_of_no_run hr]
    exact ⟨hs, trivial⟩
  | some run =>
    cases hd : d.screen? run.screen with
    | none =>
      rw [advance_of_no_screen hr (hs.document_eq ▸ hd)]
      exact ⟨hs, trivial⟩
    | some screen =>
      have kept := ScreenRun.keeps_advance (preserves_measure changes hd s) run hs.world
      rw [advance_of_screen hr (hs.document_eq ▸ hd)]
      cases failed : (run.advance (s.measure screen) s.world).1 with
      | ok events => exact ⟨hs.with_world kept _ _, trivial⟩
      | error e =>
        exact ⟨hs.with_world kept _ _,
          ScreenRun.fails_of_advance (comesFrom_measure hd s) run s.world failed⟩

/-- Showing a screen keeps what the changes among the items do. -/
theorem holding_activate (id : String) : Lasts d commands p (activate id) := by
  refine keeps_get.bind fun s hs ↦ ?_
  rw [hs.document_eq]
  cases hd : d.screen? id with
  | none => exact keeps_throw trivial
  | some screen =>
    have immediate : Preserves p (Mutation.applyAll screen.immediateMutations) := by
      refine Mutation.preserves_applyAll fun change hc ↦ ?_
      obtain ⟨item, member, hi⟩ := List.mem_filterMap.mp hc
      split at hi
      · next target m _ content =>
        cases hi
        exact changes item (Document.mem_items_of_screen? hd member) target m content
      · cases hi
    refine (keeps_modify fun t ht ↦ ht.with_world ht.world _ _).bind fun _ _ ↦ ?_
    refine (holding_work immediate).bind fun _ _ ↦ ?_
    exact (holding_advance changes).bind fun _ _ ↦ keeps_pure trivial

/-- Time keeps what the changes among the items do. -/
theorem holding_tickBy (elapsed : Duration) :
    Lasts d commands p (tickBy elapsed) := by
  refine keeps_get.bind fun s hs ↦ ?_
  cases hr : s.run with
  | none => exact keeps_pure trivial
  | some run =>
    refine (keeps_modify fun t ht ↦ ht.with_world ht.world _ _).bind fun _ _ ↦ ?_
    exact (holding_advance changes).bind fun _ _ ↦ keeps_pure trivial

/-- Showing active items fully keeps what the changes among the items do. -/
theorem holding_skipSteps (fuel : Nat) :
    Lasts d commands p (skipSteps fuel) := by
  induction fuel with
  | zero => exact keeps_pure trivial
  | succ fuel ih =>
    refine keeps_get.bind fun s hs ↦ ?_
    cases hr : s.run with
    | none => exact keeps_pure trivial
    | some run =>
      simp only
      split
      · exact keeps_pure trivial
      · refine (keeps_modify fun t ht ↦ ht.with_world ht.world _ _).bind fun _ _ ↦ ?_
        exact (holding_advance changes).bind fun _ _ ↦ ih.bind fun _ _ ↦ keeps_pure trivial

/-- Following signals keeps what the changes among the items do. -/
theorem holding_follow (signals : List Signal) :
    Lasts d commands p (follow signals) := by
  refine keeps_get.bind fun s hs ↦ ?_
  cases (Signal.dialogs signals).find? fun id ↦ (s.document.dialog? id).isNone with
  | some id => exact keeps_throw trivial
  | none =>
    have opens (id : String) : Lasts d commands p
        (modify fun t ↦ { t with dialog := some id } : Play Unit) :=
      keeps_modify fun t ht ↦ ht.with_world ht.world _ _
    have shows (screen : String) : Lasts d commands p
        (activate screen >>= fun _ ↦ return ()) :=
      (holding_activate changes screen).bind fun _ _ ↦ keeps_pure trivial
    cases Signal.lastScreen? signals with
    | none =>
      cases (Signal.dialogs signals).getLast? with
      | none => exact keeps_pure trivial
      | some id => exact (opens id).bind fun _ _ ↦ keeps_pure trivial
    | some screen =>
      cases (Signal.dialogs signals).getLast? with
      | none => exact shows screen
      | some id => exact (opens id).bind fun _ _ ↦ shows screen

end Changes

section Lasting

variable (lasting : World.Lasting d commands p)

include lasting

/-- Running an input at a prompt of the document keeps what lasts. -/
theorem holding_dispatchAt {id : String} {screen : Screen} (found : d.screen? id = some screen)
    {q : Prompt} (prompt : screen.prompt? = some q) (input : String) :
    Lasts d commands p (dispatchAt q input) := by
  intro s hs
  have kept := (Dispatcher.hostCommands_choose s.dispatcher q input).trans hs.commands_eq
  cases hc : (s.dispatcher.choose q input).1 with
  | none =>
    rw [dispatchAt_of_none hc]
    exact ⟨⟨hs.document_eq, kept, hs.world⟩, trivial⟩
  | some c =>
    have leaves := lasting.leaves_of_choose hs.commands_eq (Document.mem_of_screen? found)
      prompt hc (some input)
    have run : Preserves p (c.run input) :=
      Command.preserves_run (fun w hw ↦ lasting.inputs w input hw) leaves
    have after := run s.world hs.world
    rw [dispatchAt_of_some hc]
    cases hr : c.run input s.world with
    | ok o world =>
      rw [hr] at after
      exact ⟨⟨hs.document_eq, kept, after.1⟩, trivial⟩
    | error e world =>
      rw [hr] at after
      exact ⟨⟨hs.document_eq, kept, after.1⟩, trivial⟩

/-- Answering an input keeps what lasts. -/
theorem holding_answer (screenId input : String) :
    Lasts d commands p (answer screenId input) := by
  refine keeps_get.bind fun s hs ↦ ?_
  rw [hs.document_eq]
  cases hd : d.screen? screenId with
  | none => exact keeps_throw trivial
  | some screen =>
    simp only
    cases hp : screen.prompt? with
    | none => exact keeps_pure trivial
    | some q => exact (holding_dispatchAt lasting hd hp input).bind fun _ _ ↦ keeps_pure trivial

/-- Acting on what a player asks for keeps what lasts. -/
theorem holding_act (r : Request) : Lasts d commands p r.act := by
  cases r with
  | typeOn screen input => exact holding_answer lasting screen input
  | type input =>
    refine keeps_get.bind fun s _ ↦ ?_
    cases s.screenId? with
    | none => exact keeps_throw trivial
    | some screen => exact holding_answer lasting screen input
  | click id shift =>
    refine keeps_get.bind fun s hs ↦ ?_
    cases hi : s.item id with
    | error e => exact keeps_throw (comesFrom_of_item hi)
    | ok item =>
      obtain ⟨run, screen, -, found, member⟩ := exists_of_item hi
      rw [hs.document_eq] at found
      simp only
      split
      · next content =>
        have leaves := lasting.leaves_of_offers (Document.mem_items_of_screen? found member)
          (content ▸ Content.Offers.forClick shift) none
        exact holding_work (Action.preserves_perform none _ leaves)
      · exact keeps_throw trivial

/-- Every call keeps what lasts, unless it is the host that puts other values into variables. -/
theorem holding_play (leaves : c.Leaves p) : Lasts d commands p c.play := by
  have quiet : ∀ f : Session → Session,
      (∀ s, s.Holding d commands p → (f s).Holding d commands p) →
      Lasts d commands p (do
        modify f
        return [] : Play (List LifecycleEvent)) :=
    fun f hf ↦ (keeps_modify hf).bind fun _ _ ↦ keeps_pure trivial
  cases c with
  | begin => exact keeps_get.bind fun s _ ↦ holding_activate lasting.changes s.start
  | activate id => exact holding_activate lasting.changes id
  | request r =>
    rw [Call.play, r.play_eq]
    have whole : Lasts d commands p (do
        let signals ← r.act
        follow signals
        return signals) :=
      (holding_act lasting r).bind fun signals _ ↦
        (holding_follow lasting.changes signals).bind fun _ _ ↦ keeps_pure trivial
    exact whole.bind fun _ _ ↦ keeps_pure trivial
  | tick => exact keeps_get.bind fun s _ ↦ holding_tickBy lasting.changes s.tickInterval
  | tickBy elapsed => exact holding_tickBy lasting.changes elapsed
  | skip => exact keeps_get.bind fun _ _ ↦ holding_skipSteps lasting.changes _
  | flip item => exact quiet _ fun s hs ↦ hs.with_world (lasting.flips _ item hs.world) _ _
  | dismiss => exact quiet _ fun s hs ↦ hs.with_world hs.world _ _
  | resize columns => exact quiet _ fun s hs ↦ ⟨hs.document_eq, hs.commands_eq, hs.world⟩
  | restore saved => exact quiet _ fun s hs ↦ hs.with_world (leaves _ hs.world) _ _
  | write store => exact quiet _ fun s hs ↦ hs.with_world (leaves _ hs.world) _ _

/-- What lasts holds after a call, whether it succeeds or fails. -/
theorem Holding.after (leaves : c.Leaves p) (h : s.Holding d commands p) :
    (s.after c).Holding d commands p :=
  after_eq_leftBy s c ▸ (holding_play lasting leaves).leftBy h

/-- What lasts holds throughout any calls. -/
theorem Holding.afterAll {calls : List Call} (leaves : ∀ c ∈ calls, c.Leaves p)
    (h : s.Holding d commands p) : (s.afterAll calls).Holding d commands p := by
  induction calls generalizing s with
  | nil => exact h
  | cons c calls ih =>
    obtain ⟨first, rest⟩ := List.forall_mem_cons.mp leaves
    exact ih rest (h.after lasting first)

/-- Whatever fails to be laid out in any calls is an item of the document. -/
theorem Holding.comesFrom_of_mem_failures {calls : List Call} (leaves : ∀ c ∈ calls, c.Leaves p)
    (h : s.Holding d commands p) : ∀ e ∈ s.failures calls, e.ComesFrom d := by
  induction calls generalizing s with
  | nil => simp [failures]
  | cons c calls ih =>
    obtain ⟨first, rest⟩ := List.forall_mem_cons.mp leaves
    have lasts := holding_play lasting first
    unfold failures
    cases hc : c.play s with
    | ok events t => exact ih rest (lasts.of_ok h hc).1
    | error e t =>
      obtain ⟨held, from_document⟩ := lasts.of_error h hc
      exact List.forall_mem_cons.mpr ⟨from_document, ih rest held⟩

/-- The steps of the action of a request keep what lasts. -/
private theorem leaves_of_action? (h : s.Holding d commands p) {r : Request} {a : Action}
    (ha : r.action? s = some a) (lastCommand : Option String) :
    ∀ step ∈ a.everyStep, step.Leaves lastCommand p := by
  have answers (screen input : String) (ha : Request.answer? s screen input = some a) :
      ∀ step ∈ a.everyStep, step.Leaves lastCommand p := by
    obtain ⟨screen, found, ha⟩ := Option.bind_eq_some_iff.mp ha
    obtain ⟨q, prompt, ha⟩ := Option.bind_eq_some_iff.mp ha
    obtain ⟨c, chosen, ha⟩ := Option.bind_eq_some_iff.mp ha
    cases ha
    rw [h.document_eq] at found
    exact lasting.leaves_of_choose h.commands_eq (Document.mem_of_screen? found) prompt chosen
      lastCommand
  cases r with
  | typeOn screen input => exact answers screen input ha
  | type input =>
    obtain ⟨screen, -, ha⟩ := Option.bind_eq_some_iff.mp ha
    exact answers screen input ha
  | click id shift =>
    obtain ⟨item, hi, ha⟩ := Option.bind_eq_some_iff.mp ha
    obtain ⟨actions, hl, ha⟩ := Option.bind_eq_some_iff.mp ha
    cases ha
    have hi : s.item id = .ok item := by
      cases ht : s.item id with
      | error e => simp [ht, Except.toOption] at hi
      | ok other => simpa [ht, Except.toOption] using hi
    obtain ⟨run, screen, -, found, member⟩ := exists_of_item hi
    rw [h.document_eq] at found
    refine lasting.leaves_of_offers (Document.mem_items_of_screen? found member) ?_ lastCommand
    cases content : item.content <;> rw [content] at hl <;> cases hl
    exact .forClick shift

/-- What lasts holds whenever a request asks a condition. -/
theorem Holding.of_mem_asked (h : s.Holding d commands p) (r : Request) :
    ∀ question ∈ r.asked s, p question.2 := by
  intro question asked
  unfold Request.asked at asked
  cases ha : r.action? s with
  | none =>
    rw [ha] at asked
    cases asked
  | some a =>
    rw [ha] at asked
    have begins : p (r.world s) := by
      unfold Request.world
      cases r.input? with
      | none => exact h.world
      | some input => exact lasting.inputs _ input h.world
    exact a.holds_of_mem_asked r.input? (leaves_of_action? lasting h ha r.input?) begins question
      asked

end Lasting

/-- A session that has just been set up has the variables of the document with the values they
start with, and its toggles. -/
theorem holding_of_session {setup : Setup} (document : setup.ownDocument = .ok d)
    (commands_eq : setup.hostCommands = commands)
    (fresh : ∀ random, p ⟨d.initialStore, .ofToggles d.toggles, random⟩)
    (h : setup.session = .ok s) : s.Holding d commands p := by
  obtain ⟨settings, opens⟩ := Setup.exists_opensFrom h
  have same : s.document = d := Except.ok.inj (opens.document.symm.trans document)
  refine ⟨same, ?_, ?_⟩
  · rw [opens.dispatcher]
    exact commands_eq
  · rw [opens.world, same]
    exact fresh _

end Session

end Teletype
