import Teletype.Proofs.Layout.Missing
import Teletype.Proofs.Lint.Placeholder
import Teletype.Proofs.Session.Lasting
import Teletype.Session.View
/-!
# Whose text a session fails to lay out

Whatever is done with a session, a failure to lay something out is one over a text that stands in
its document. When no check has warned of a placeholder and prompts mention known variables only,
such a failure is therefore never over a variable that nothing declares or sets.
-/

namespace Teletype

/-- The text that is laid out for an item is one of those that it may show. -/
theorem Item.mem_texts_of_sourceText? {toggles : ToggleBoard} {item : Item} {text : String}
    (h : item.sourceText? toggles = some text) : text ∈ item.content.texts := by
  obtain ⟨id, className, onLoad, content⟩ := item
  cases content with
  | text | link | prompt | countdown =>
    cases h
    exact List.mem_singleton.mpr rfl
  | toggle states options =>
    obtain ⟨state, found, rfl⟩ := Option.map_eq_some_iff.mp h
    exact List.mem_map_of_mem (List.mem_of_getElem? found)
  | bitmap | mutate => cases h

/-- A variable over which an item of a document fails to be laid out is named by a placeholder in a
text of the document. -/
theorem SessionError.ComesFrom.exists_text {d : Document} {name : String}
    (h : ComesFrom d (.format (.missingVariable name))) :
    ∃ text ∈ d.texts, name ∈ Layout.placeholders text := by
  obtain ⟨item, member, stage, failed⟩ := h
  obtain ⟨text, source, failed⟩ := Stage.exists_of_layout failed
  obtain ⟨missing, mentioned, -, refused⟩ := Layout.exists_of_interpolate failed
  cases (Layout.MissingPolicy.eq_of_text refused).2
  exact ⟨text, List.mem_flatMap.mpr ⟨item, member, Item.mem_texts_of_sourceText? source⟩,
    mentioned⟩

namespace Session

variable {d : Document} {s : Session}

/-- Of every session there is something that lasts, if nothing is said of its world. -/
theorem lasting_true (d : Document) (commands : List Command) :
    World.Lasting d commands fun _ ↦ True := by
  have leaves (step : Step) (lastCommand : Option String) :
      step.Leaves lastCommand fun _ ↦ True := by
    cases step with
    | mutate target m => exact preserves_true _
    | toggle id => exact fun _ _ ↦ trivial
    | link | dialog | branch | unknown => trivial
  constructor
  case changes => exact fun _ _ _ _ _ ↦ preserves_true _
  case steps => exact fun _ _ step _ ↦ leaves step
  case host => exact fun _ _ step _ ↦ leaves step
  case inputs => exact fun _ _ _ ↦ trivial
  case flips => exact fun _ _ _ ↦ trivial

private theorem leaves_true (c : Call) : c.Leaves fun _ ↦ True := by
  cases c with
  | restore | write => exact fun _ _ ↦ trivial
  | begin | activate | request | tick | tickBy | skip | flip | dismiss | resize => trivial

/-- An item is drawn unless it cannot be laid out, or is not there. -/
theorem comesFrom_of_render (h : s.document = d) {id : String} {e : SessionError}
    (failed : s.render id = .error e) : e.ComesFrom d := by
  unfold render at failed
  cases hi : s.item id with
  | error fault =>
    rw [hi] at failed
    cases failed
    exact comesFrom_of_item hi
  | ok item =>
    obtain ⟨run, screen, -, found, here⟩ := exists_of_item hi
    have member : item ∈ d.items := h ▸ Document.mem_items_of_screen? found here
    cases laid : (s.stage s.world).layout item with
    | ok text =>
      simp only [hi, laid, bind, Except.bind] at failed
      cases failed
    | error fault =>
      simp only [hi, laid, bind, Except.bind] at failed
      cases failed
      exact ⟨item, member, _, laid⟩

private theorem exists_of_mapM {ε α β : Type} {f : α → Except ε β} {xs : List α} {e : ε}
    (h : xs.mapM f = .error e) : ∃ a ∈ xs, f a = .error e := by
  induction xs with
  | nil => cases h
  | cons a xs ih =>
    rw [List.mapM_cons] at h
    cases first : f a with
    | error fault =>
      rw [first] at h
      cases h
      exact ⟨a, List.mem_cons_self, first⟩
    | ok b =>
      cases rest : xs.mapM f with
      | error fault =>
        rw [first, rest] at h
        cases h
        obtain ⟨other, member, failed⟩ := ih rest
        exact ⟨other, List.mem_cons_of_mem _ member, failed⟩
      | ok bs =>
        rw [first, rest] at h
        cases h

/-- A screen is drawn unless an item of it cannot be laid out, or none shows. -/
theorem comesFrom_of_renderScreen (h : s.document = d) {e : SessionError}
    (failed : s.renderScreen = .error e) : e.ComesFrom d := by
  unfold renderScreen at failed
  split at failed
  · cases failed
    trivial
  · obtain ⟨item, -, drawn⟩ := exists_of_mapM failed
    exact comesFrom_of_render h drawn

/-- Some calls, or drawing what shows after them, fail because a variable is unset. -/
def Misses (s : Session) (calls : List Call) (name : String) : Prop :=
  .format (.missingVariable name) ∈ s.failures calls ∨
    (∃ id, (s.afterAll calls).render id = .error (.format (.missingVariable name))) ∨
    (s.afterAll calls).renderScreen = .error (.format (.missingVariable name))

/-- In a document without warnings all placeholders name known variables exactly when those of
prompts do, and then nothing that is done with a session fails over a variable that the document
does not know. -/
theorem missing_names_known (clean : (Lint.check d).warnings = []) :
    ((∀ text ∈ d.texts, d.KnowsNamesOf text) ↔ ∀ text ∈ d.prompts, d.KnowsNamesOf text) ∧
      ((∀ text ∈ d.prompts, d.KnowsNamesOf text) → ∀ s : Session, s.document = d →
        ∀ (calls : List Call) (name : String), s.Misses calls name → name ∈ d.knownVariables) := by
  have same := Lint.knowsNames_iff_of_check clean
  refine ⟨same, fun known s h calls name missed ↦ ?_⟩
  have lasting := lasting_true d s.dispatcher.hostCommands
  have leaves : ∀ c ∈ calls, c.Leaves fun _ ↦ True := fun c _ ↦ leaves_true c
  have held : s.Holding d s.dispatcher.hostCommands fun _ ↦ True := ⟨h, rfl, trivial⟩
  have later := (held.afterAll lasting leaves).document_eq
  have laid : SessionError.ComesFrom d (.format (.missingVariable name)) := by
    rcases missed with failed | ⟨id, failed⟩ | failed
    · exact held.comesFrom_of_mem_failures lasting leaves _ failed
    · exact comesFrom_of_render later failed
    · exact comesFrom_of_renderScreen later failed
  obtain ⟨text, member, mentioned⟩ := laid.exists_text
  exact same.mpr known text member name mentioned

end Session

namespace Booth

/-- A window whose only command counts the visitors. -/
def window (prompt : String) : Item :=
  ⟨"window", none, true,
    .prompt ⟨prompt, [.words ["enter"] (.single (.change "visitors" (.count .increment)))],
      false, {}⟩⟩

/-- A story of one screen with the window. -/
def document (prompt : String) : Document where
  metadata := {}
  config := {}
  screens := [⟨"booth", .screen, [window prompt]⟩]
  dialogs := []
  declarations := []
  screenTable := (∅ : IdTable).insert "booth" 0
  dialogTable := ∅

/-- The story with nothing to stand in for unset variables. -/
def setup (prompt : String) : Setup where
  document := .given (document prompt)
  interpolation := some { missing := .fail }

/-- A prompt that shows how many have entered. -/
def counted : String := "\x7b\x7bvisitors\x7d\x7d> "

/-- Before anyone has entered there is no number of visitors to show, but the document knows it. -/
theorem visitors_missing_but_known :
    (Lint.check (document counted)).warnings = [] ∧
      ∃ s, (setup counted).session = .ok s ∧ s.Misses [.begin] "visitors" ∧
        "visitors" ∈ (document counted).knownVariables := by
  have clean : (Lint.check (document counted)).warnings = [] := by decide +kernel
  have known : ∀ text ∈ (document counted).prompts, ∀ name ∈ Layout.placeholders text,
      name ∈ (document counted).knownVariables := by
    decide +kernel
  obtain ⟨s, opened, own, failed⟩ : ∃ s, (setup counted).session = .ok s ∧
      s.document = document counted ∧
      .format (.missingVariable "visitors") ∈ s.failures [.begin] :=
    ⟨_, rfl, rfl, by decide +kernel⟩
  have missed : s.Misses [.begin] "visitors" := .inl failed
  exact ⟨clean, s, opened, missed,
    (Session.missing_names_known clean).2 known s own [.begin] "visitors" missed⟩

/-- A prompt that shows a ghost. -/
def haunted : String := "\x7b\x7bghost\x7d\x7d> "

/-- The check has nothing to say of the ghost, of which nobody knows. A session cannot show it. -/
theorem ghost_missing_unwarned :
    Lint.check (document haunted) = ⟨[], []⟩ ∧ haunted ∈ (document haunted).texts ∧
      "ghost" ∈ Layout.placeholders haunted ∧ "ghost" ∉ (document haunted).knownVariables ∧
      ∃ s, (setup haunted).session = .ok s ∧ s.Misses [.begin] "ghost" := by
  obtain ⟨s, opened, failed⟩ : ∃ s, (setup haunted).session = .ok s ∧
      .format (.missingVariable "ghost") ∈ s.failures [.begin] :=
    ⟨_, rfl, by decide +kernel⟩
  exact ⟨by decide +kernel, by decide +kernel, by decide +kernel, by decide +kernel, s, opened,
    .inl failed⟩

end Booth

end Teletype
