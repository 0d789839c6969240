import Teletype.Proofs.Session.Vault
import Teletype.Proofs.Session.Within
/-!
# The parts of a session fit together

The document with its tables, the reveal that shows and the open dialog are kept apart, and calls
may fail when they have changed some of them and not the others. All the same they fit together
after any calls: the reveal has the items of a screen of the document, the open dialog is one of the
document, and the columns are those that the host offered last. So there is never a screen or an
item missing when the reveal goes on.
-/

namespace Teletype

/-- A reveal that has the items of a screen one for one, in order. -/
structure ScreenRun.Mirrors (d : Document) (screen : Screen) (run : ScreenRun) : Prop where
  screen_eq : run.screen = screen.id
  ids_eq : run.items.map ItemProgress.id = screen.items.map Item.id
  /-- An item that takes no part in the reveal is done, with nothing to show. -/
  outside : ∀ (place : Nat) (item : Item) (progress : ItemProgress),
    screen.items[place]? = some item → run.items[place]? = some progress → item.onLoad = false →
      progress.state = .done ∧ progress.revealed = 0 ∧ progress.length = 0
  /-- The reveal is one of just these items with their flags. -/
  from_start : ∃ steps,
    run = (ScreenRun.start screen.id (screen.revealEntries d.config.speed)).stepAll steps

/-- A reveal that has begun on a screen of a document has the items of the screen. -/
theorem ScreenRun.BeganOn.mirrors {d : Document} {screen : Screen} {run : ScreenRun}
    (made : d.IsMade) (h : run.BeganOn d screen) : run.Mirrors d screen := by
  have screen_eq : run.screen = screen.id :=
    ((Document.screen?_eq_some_iff made).mp h.found).2.symm
  constructor
  case screen_eq => exact screen_eq
  case ids_eq => exact h.isOf.map_id
  case outside =>
    intro place item progress hi hp off
    have entry : (screen.revealEntries d.config.speed)[place]? = some
        { id := item.id
          onLoad := item.onLoad
          speed := (item.content.options?.bind TextOptions.speed).or d.config.speed } := by
      simp [Screen.revealEntries, hi]
    exact h.isOf.staged.sequenced.done_outside place _ progress entry off hp
  case from_start => exact screen_eq ▸ h.from_start

/-- A session whose parts fit together, with the columns that the host has offered last. -/
structure Session.Coherent (d : Document) (offered : Nat) (s : Session) : Prop where
  document_eq : s.document = d
  /-- The screen that shows is one of the document. -/
  screen_known : ∀ id, s.screenId? = some id →
    ∃ screen ∈ d.screens, screen.id = id ∧ s.screen? = some screen
  run_mirrors : ∀ run, s.run = some run → ∃ screen, s.screen? = some screen ∧ run.Mirrors d screen
  /-- The open dialog is one of the document. -/
  dialog_known : ∀ id, s.dialog = some id →
    ∃ dialog ∈ d.dialogs, dialog.id = id ∧ s.openDialog? = some dialog
  columns_eq : s.columns = d.config.clampColumns offered
  /-- The table of screens gives places of screens. -/
  screen_table : ∀ (id : String) (place : Nat), s.document.screenTable[id]? = some place →
    ∃ screen, s.document.screens[place]? = some screen ∧ screen.id = id
  /-- The table of dialogs gives places of dialogs. -/
  dialog_table : ∀ (id : String) (place : Nat), s.document.dialogTable[id]? = some place →
    ∃ dialog, s.document.dialogs[place]? = some dialog ∧ dialog.id = id

namespace Session

variable {b : Bounds} {budget : Nat} {s : Session}

/-- The parts of a session that keeps to its bounds fit together. -/
theorem Within.coherent (h : s.Within b budget) (made : b.document.IsMade) :
    s.Coherent b.document budget := by
  have shown : ∀ run, s.run = some run →
      ∃ screen, s.screen? = some screen ∧ run.BeganOn b.document screen := by
    intro run hr
    obtain ⟨screen, found, began⟩ := h.exists_screen hr
    exact ⟨screen, by simp [screen?, screenId?, hr, found], began⟩
  constructor
  case document_eq => exact h.document_eq
  case screen_known =>
    intro id hid
    obtain ⟨run, hr, rfl⟩ := Option.map_eq_some_iff.mp hid
    obtain ⟨screen, hs, began⟩ := shown run hr
    obtain ⟨member, same⟩ := (Document.screen?_eq_some_iff made).mp began.found
    exact ⟨screen, member, same, hs⟩
  case run_mirrors =>
    intro run hr
    obtain ⟨screen, hs, began⟩ := shown run hr
    exact ⟨screen, hs, began.mirrors made⟩
  case dialog_known =>
    intro id hid
    obtain ⟨dialog, found⟩ := Option.isSome_iff_exists.mp (h.dialog_known id hid)
    obtain ⟨member, same⟩ := (Document.dialog?_eq_some_iff made).mp found
    exact ⟨dialog, member, same, by simp [openDialog?, hid, h.document_eq, found]⟩
  case columns_eq => exact h.columns_eq
  case screen_table => exact fun _ _ ↦ Document.exists_of_screenTable (h.document_eq ▸ made)
  case dialog_table => exact fun _ _ ↦ Document.exists_of_dialogTable (h.document_eq ▸ made)

/-- A document by itself, with commands of the host, sets no bounds to the screens that show. -/
def unbounded (d : Document) (commands : List Command) : Bounds :=
  ⟨d, commands, fun _ ↦ True⟩

/-- Without bounds everything leads only to what may show. -/
theorem closed_unbounded (d : Document) (commands : List Command) :
    (unbounded d commands).Closed :=
  ⟨fun _ _ _ _ _ ↦ trivial, fun _ _ _ _ _ ↦ trivial⟩

/-- Without bounds no call asks for anything that may not show. -/
theorem respects_unbounded (d : Document) (commands : List Command) (c : Call) :
    c.Respects (unbounded d commands) := by
  cases c with
  | activate id => exact fun _ ↦ trivial
  | request r =>
    cases r with
    | typeOn id input => exact fun _ ↦ trivial
    | type | click => trivial
  | begin | tick | tickBy | skip | flip | dismiss | resize | restore | write => trivial

/-- After any calls, those that fail among them, the parts of a session fit together, and no call
comes to what stands in for want of a screen or an item when the reveal goes on: anything else in
its place makes no difference. -/
theorem coherent_afterAll {d : Document} {setup : Setup} {settings : Settings} (made : d.IsMade)
    (document : setup.ownDocument = .ok d) (own : setup.ownSettings = .ok settings)
    (h : setup.session = .ok s) (calls : List Call) :
    (s.afterAll calls).Coherent d
        (calls.foldl Call.offered (setup.overriding settings).columns) ∧
      ∀ lost absent (c : Call),
        c.playVia (advanceOr lost absent) (s.afterAll calls) = c.play (s.afterAll calls) := by
  have closed := closed_unbounded d setup.hostCommands
  have respects := respects_unbounded d setup.hostCommands
  have opened : s.Within (unbounded d setup.hostCommands) (setup.overriding settings).columns :=
    within_of_session document rfl own (fun _ _ _ ↦ trivial) h
  have kept := opened.afterAll closed fun c (_ : c ∈ calls) ↦ respects c
  exact ⟨kept.coherent made, fun lost absent c ↦
    kept.playVia_eq closed (respects c) (alike_advanceOr lost absent)⟩

/-- After the door of the vault has failed to open, the vault shows with its one item, which takes
no part in the reveal, and skipping asks for nothing else. -/
theorem coherent_vault :
    let s := Vault.opening.afterAll [.begin, .request (.click "door" false), .resize 40]
    Vault.opening.failures [.begin, .request (.click "door" false), .resize 40] ≠ [] ∧
      s.screenId? = some "vault" ∧ s.Coherent Vault.document 40 ∧
      ∀ lost absent, Call.skip.playVia (advanceOr lost absent) s = Call.skip.play s := by
  obtain ⟨coherent, same⟩ := coherent_afterAll Vault.isMade_document rfl rfl Vault.session_setup
    [.begin, .request (.click "door" false), .resize 40]
  exact ⟨nofun, rfl, coherent, fun lost absent ↦ same lost absent .skip⟩

end Session

end Teletype
