import Teletype.Proofs.Lint.Unset
import Teletype.Proofs.Session.Lasting
import Teletype.Proofs.Store.Table
/-!
# The variables that a session can have

A session of a document, without commands of the host, has only variables that the check of the
document knows: declared ones, that of the last command, and those that an item or a step, however
deep in branches, changes. A comparison that reads a variable of which the check warns is therefore
false whenever it is asked.
-/

namespace Teletype

/-- A store all of whose variables are among given ones. -/
def Store.NamedIn (known : List String) (s : Store) : Prop :=
  ∀ name value, s.get? name = some value → name ∈ known

/-- Setting a known variable leaves the variables among the known ones. -/
theorem Store.NamedIn.set {known : List String} {s : Store} (h : s.NamedIn known) {name : String}
    (member : name ∈ known) (value : Value) : (s.set name value).NamedIn known := by
  intro other value' set
  rw [get?_set] at set
  by_cases same : name = other
  · exact same ▸ member
  · rw [if_neg same] at set
    exact h other value' set

/-- A comparison that reads a variable that is unset does not hold. -/
theorem Comparison.holds_of_unset {c : Comparison} {name : String} (reads : name ∈ c.reads)
    {s : Store} (unset : s.get? name = none) : c.holds s = false := by
  obtain ⟨op, left, right, ignoreCase⟩ := c
  have absent {operand : Operand} (h : name ∈ operand.reads) : operand.resolve? s = none := by
    cases operand with
    | named other => exact List.mem_singleton.mp h ▸ unset
    | literal value => cases h
  unfold holds
  rcases List.mem_append.mp reads with h | h
  · simp only [absent h]
  · cases left.resolve? s <;> simp only [absent h]

namespace Document

variable (d : Document)

/-- The variables that a document begins with are those that it declares. -/
theorem namedIn_initialStore : d.initialStore.NamedIn d.knownVariables := by
  intro name value set
  have declared := Store.mem_names_of_get?_ofList set
  rw [List.map_map] at declared
  exact List.mem_append_left _ (List.mem_append_left _ declared)

/-- The variable of the last command is known. -/
theorem lastCommandName_mem_knownVariables : lastCommandName ∈ d.knownVariables :=
  List.mem_append_left _ (List.mem_append_right _ (List.mem_singleton.mpr rfl))

variable {d} {item : Item} (member : item ∈ d.items)

include member

/-- A variable that an item changes by itself is known. -/
theorem mem_knownVariables_of_content {target : String} {m : Mutation}
    (content : item.content = .mutate target m) : target ∈ d.knownVariables := by
  refine List.mem_append_right _ (List.mem_flatMap.mpr ⟨item, member, ?_⟩)
  refine List.mem_append_left _ (Option.mem_toList.mpr ?_)
  rw [content]
  rfl

/-- A variable that a step of an item changes, however deep it stands, is known. -/
theorem mem_knownVariables_of_step {target : String} {m : Mutation}
    (step : .mutate target m ∈ item.everyStep) : target ∈ d.knownVariables := by
  refine List.mem_append_right _ (List.mem_flatMap.mpr ⟨item, member, ?_⟩)
  exact List.mem_append_right _ (List.mem_filterMap.mpr ⟨_, step, rfl⟩)

end Document

/-- Whatever a document does to the variables, they stay among those that it knows. -/
theorem World.lasting_namedIn (d : Document) :
    World.Lasting d [] fun w ↦ w.store.NamedIn d.knownVariables := by
  have changes {target : String} (known : target ∈ d.knownVariables) (m : Mutation)
      (lastCommand : Option String) :
      Preserves (fun w ↦ w.store.NamedIn d.knownVariables) (m.apply target lastCommand) :=
    m.preserves_apply (fun _ value hw ↦ hw.set known value) (fun _ _ hw ↦ hw) lastCommand
  constructor
  case changes =>
    intro item member target m content
    exact changes (Document.mem_knownVariables_of_content member content) m none
  case steps =>
    intro item member step started lastCommand
    cases step with
    | mutate target m =>
      exact changes (Document.mem_knownVariables_of_step member started) m lastCommand
    | toggle id => exact fun _ hw ↦ hw
    | link | dialog | branch | unknown => trivial
  case host => exact fun _ h ↦ nomatch h
  case inputs => exact fun _ _ hw ↦ hw.set d.lastCommandName_mem_knownVariables _
  case flips => exact fun _ _ hw ↦ hw

/-- Whether by a call the host itself puts values into variables. -/
def Call.isHostWrite : Call → Bool
  | restore _ | write _ => true
  | begin | activate _ | request _ | tick | tickBy _ | skip | flip _ | dismiss | resize _ => false

namespace Session

/-- After any calls in which the host writes no variables, those that fail among them, a session
without commands of the host has only variables that the document knows. A comparison that reads a
variable of which the check warns does not hold then, and not whenever a further request asks a
condition on its way. -/
theorem known_throughout {d : Document} {setup : Setup} {s : Session}
    (document : setup.ownDocument = .ok d) (commands : setup.hostCommands = [])
    (h : setup.session = .ok s) {calls : List Call} (own : ∀ c ∈ calls, c.isHostWrite = false) :
    (s.afterAll calls).world.store.NamedIn d.knownVariables ∧
      ∀ f ∈ (Lint.check d).findings, ∀ name ∈ f.flaw.unset?, ∀ c : Comparison, name ∈ c.reads →
        c.holds (s.afterAll calls).world.store = false ∧
        ∀ r : Request, ∀ question ∈ r.asked (s.afterAll calls),
          c.holds question.2.store = false := by
  have lasting := World.lasting_namedIn d
  have leaves : ∀ c ∈ calls, c.Leaves fun w ↦ w.store.NamedIn d.knownVariables := by
    intro c hc
    have owned := own c hc
    cases c with
    | restore | write => cases owned
    | begin | activate | request | tick | tickBy | skip | flip | dismiss | resize => trivial
  have opened : s.Holding d [] fun w ↦ w.store.NamedIn d.knownVariables :=
    holding_of_session document commands (fun _ ↦ d.namedIn_initialStore) h
  have kept := opened.afterAll lasting leaves
  refine ⟨kept.world, fun f found name unset c reads ↦ ?_⟩
  have absent := Lint.not_known_of_mem_findings found unset
  have fails {t : Store} (named : t.NamedIn d.knownVariables) : c.holds t = false := by
    refine c.holds_of_unset reads ?_
    cases set : t.get? name with
    | none => rfl
    | some value => exact absurd (named name value set) absent
  exact ⟨fails kept.world, fun r question asked ↦ fails (kept.of_mem_asked lasting r question asked)⟩

end Session

namespace Belfry

/-- A comparison of a variable that nothing sets. -/
def haunted : Comparison := ⟨.notEqual, .named "ghost", .literal (.bool false), false⟩

/-- The link that counts the strokes and then asks whether there is a ghost. -/
def rope : Item :=
  ⟨"rope", none, true, .link "rope" ⟨.chain [.change "strokes" (.count .increment),
    .branch (.comparison haunted) (.dialog "ghost") (.link "belfry")], none⟩ {}⟩

/-- A story of one screen with the rope. -/
def document : Document where
  metadata := {}
  config := {}
  screens := [⟨"belfry", .screen, [rope]⟩]
  dialogs := []
  declarations := []
  screenTable := (∅ : IdTable).insert "belfry" 0
  dialogTable := ∅

/-- The story without further settings. -/
def setup : Setup where
  document := .given document

/-- The check warns of the ghost, and whoever pulls the rope asks for it in vain. -/
theorem ghost_asked_for_in_vain :
    ⟨"belfry", "rope", .unsetVariable "ghost"⟩ ∈ (Lint.check document).findings ∧
      ∃ s, setup.session = .ok s ∧
        let asked := (Request.click "rope" false).asked (s.afterAll [.begin])
        asked.map Prod.fst = [.comparison haunted] ∧
          ∀ question ∈ asked, haunted.holds question.2.store = false := by
  have warned : ⟨"belfry", "rope", .unsetVariable "ghost"⟩ ∈ (Lint.check document).findings := by
    decide +kernel
  have reads : "ghost" ∈ haunted.reads := List.mem_singleton.mpr rfl
  have own : ∀ c ∈ [Call.begin], c.isHostWrite = false := by simp [Call.isHostWrite]
  obtain ⟨s, h⟩ : ∃ s, setup.session = .ok s := ⟨_, rfl⟩
  have unseen := (Session.known_throughout rfl rfl h own).2 _ warned "ghost" rfl haunted reads
  refine ⟨warned, s, h, ?_, unseen.2 (.click "rope" false)⟩
  cases h
  rfl

end Belfry

end Teletype
