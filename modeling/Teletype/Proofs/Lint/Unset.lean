import Teletype.Lint.Check
/-!
# Warnings of unset variables

Whatever the random source is on which rules are tried out, a check that warns of a variable that
nothing declares or sets is right: the name is not among those that the document knows.
-/

namespace Teletype.Lint

/-- The variable of which a flaw says that nothing declares or sets it. -/
def Flaw.unset? : Flaw → Option String
  | unsetVariable name | unsetPlaceholder name => some name
  | noStates | badPattern _ | missingScreen _ | missingDialog _ | missingToggle _
  | unknownMutation .. | badRule _ | unknownStep | noCommands => none

/-- A flaw that calls no variable unset that is known. -/
def Flaw.Fair (known : List String) (f : Flaw) : Prop := ∀ name ∈ f.unset?, name ∉ known

/-- A flaw of another kind calls no variable unset. -/
theorem Flaw.fair_of_none {f : Flaw} (h : f.unset? = none) (known : List String) : f.Fair known := by
  intro name unset
  rw [h] at unset
  cases unset

/-- A check that reports only what satisfies a condition, whatever the random source is. -/
def Reports {α : Type} (p : α → Prop) (x : StateM Random.Source (List α)) : Prop :=
  ∀ source, ∀ a ∈ (x.run source).1, p a

section Reports

variable {α β γ : Type} {p : α → Prop} {q : β → Prop} {r : γ → Prop}

private theorem reports_pure {as : List α} (h : ∀ a ∈ as, p a) : Reports p (pure as) :=
  fun _ ↦ h

private theorem Reports.one {x : StateM Random.Source (List α)} {g : List α → List γ}
    (hx : Reports p x) (made : ∀ as, (∀ a ∈ as, p a) → ∀ c ∈ g as, r c) :
    Reports r (do return g (← x)) :=
  fun source ↦ made _ (hx source)

private theorem Reports.both {x : StateM Random.Source (List α)}
    {y : StateM Random.Source (List β)} {g : List α → List β → List γ} (hx : Reports p x)
    (hy : Reports q y)
    (made : ∀ as bs, (∀ a ∈ as, p a) → (∀ b ∈ bs, q b) → ∀ c ∈ g as bs, r c) :
    Reports r (do return g (← x) (← y)) :=
  fun source ↦ made _ _ (hx source) (hy _)

end Reports

namespace Scope

variable {scope : Scope}

/-- Placeholders are called unset only where they are not known. -/
theorem fair_textFlaws (text : String) : ∀ f ∈ scope.textFlaws text, f.Fair scope.known := by
  intro f hf name unset
  obtain ⟨other, listed, rfl⟩ := List.mem_map.mp hf
  cases unset
  rw [List.mem_mergeSort, List.mem_eraseDups] at listed
  simpa using (List.mem_filter.mp listed).2

/-- A change of a variable calls none unset. -/
theorem reports_mutationFlaws (target : String) (m : Mutation) :
    Reports (Flaw.Fair scope.known) (mutationFlaws target m) := by
  unfold mutationFlaws
  split
  · exact reports_pure (List.forall_mem_singleton.mpr (Flaw.fair_of_none rfl _))
  · split
    · next rule _ =>
      intro source
      simp only [StateT.run]
      rcases Rule.generate rule source with ⟨_ | e, after⟩
      · exact List.forall_mem_singleton.mpr (Flaw.fair_of_none rfl _)
      · exact fun _ hf ↦ nomatch hf
    · exact reports_pure fun _ hf ↦ nomatch hf

/-- A condition of a step calls a variable unset only where it is not known. -/
theorem reports_stepFlaws (step : Step) :
    Reports (Flaw.Fair scope.known) (scope.stepFlaws step) := by
  cases step with
  | link | dialog | toggle =>
    refine reports_pure ?_
    split
    · exact fun _ hf ↦ nomatch hf
    · exact List.forall_mem_singleton.mpr (Flaw.fair_of_none rfl _)
  | mutate target m => exact reports_mutationFlaws target m
  | branch test whenTrue whenFalse =>
    refine reports_pure fun f hf name unset ↦ ?_
    obtain ⟨other, listed, rfl⟩ := List.mem_map.mp hf
    cases unset
    simpa using (List.mem_filter.mp listed).2
  | unknown => exact reports_pure (List.forall_mem_singleton.mpr (Flaw.fair_of_none rfl _))

private theorem reports_stepsFlaws (steps : List Step) :
    Reports (Flaw.Fair scope.known) (scope.stepsFlaws steps) := by
  induction steps with
  | nil => exact reports_pure fun _ hf ↦ nomatch hf
  | cons step steps ih =>
    exact (reports_stepFlaws step).both ih fun _ _ first rest f hf ↦
      (List.mem_append.mp hf).elim (first f) (rest f)

private theorem reports_commandsFlaws (commands : List Command) :
    Reports (Flaw.Fair scope.known) (scope.commandsFlaws commands) := by
  have patterns (c : Command) : ∀ f ∈ patternFlaws c, f.Fair scope.known := by
    intro f hf
    unfold patternFlaws at hf
    split at hf
    · obtain ⟨pattern, -, rfl⟩ := List.mem_map.mp hf
      exact Flaw.fair_of_none rfl _
    · cases hf
  induction commands with
  | nil => exact reports_pure fun _ hf ↦ nomatch hf
  | cons c commands ih =>
    refine (reports_stepsFlaws c.action.everyStep).both ih fun _ _ first rest f hf ↦ ?_
    rcases List.mem_append.mp hf with hf | hf
    · exact (List.mem_append.mp hf).elim (patterns c f) (first f)
    · exact rest f hf

/-- An item calls a variable unset only where it is not known. -/
theorem reports_contentFlaws (c : Content) :
    Reports (Flaw.Fair scope.known) (scope.contentFlaws c) := by
  cases c with
  | text text options => exact reports_pure (fair_textFlaws text)
  | bitmap | countdown => exact reports_pure fun _ hf ↦ nomatch hf
  | toggle states options =>
    refine reports_pure fun f hf ↦ ?_
    rcases List.mem_append.mp hf with hf | hf
    · split at hf
      · exact List.mem_singleton.mp hf ▸ Flaw.fair_of_none rfl _
      · cases hf
    · obtain ⟨state, -, hf⟩ := List.mem_flatMap.mp hf
      exact fair_textFlaws state.text f hf
  | mutate target m => exact reports_mutationFlaws target m
  | prompt p =>
    refine (reports_commandsFlaws p.commands).one fun _ flaws f hf ↦ ?_
    rcases List.mem_append.mp hf with hf | hf
    · split at hf
      · exact List.mem_singleton.mp hf ▸ Flaw.fair_of_none rfl _
      · cases hf
    · exact flaws f hf
  | link text l options =>
    obtain ⟨base, shift⟩ := l
    have first := @reports_stepsFlaws scope base.everyStep
    cases shift with
    | none =>
      refine Reports.one (x := scope.actionFlaws base) first fun _ first f hf ↦ ?_
      simp only [List.append_nil] at hf
      exact (List.mem_append.mp hf).elim (fair_textFlaws text f) (first f)
    | some a =>
      refine Reports.both (x := scope.actionFlaws base) (y := scope.actionFlaws a) first
        (reports_stepsFlaws a.everyStep) fun _ _ first second f hf ↦ ?_
      rcases List.mem_append.mp hf with hf | hf
      · exact (List.mem_append.mp hf).elim (fair_textFlaws text f) (first f)
      · exact second f hf

end Scope

private theorem reports_itemsFindings {scope : Scope} (screen : String) (items : List Item) :
    Reports (·.flaw.Fair scope.known) (itemsFindings scope screen items) := by
  induction items with
  | nil => exact reports_pure fun _ hf ↦ nomatch hf
  | cons item items ih =>
    refine (Scope.reports_contentFlaws item.content).both ih fun _ _ first rest f hf ↦ ?_
    rcases List.mem_append.mp hf with hf | hf
    · obtain ⟨flaw, here, rfl⟩ := List.mem_map.mp hf
      exact first flaw here
    · exact rest f hf

private theorem reports_screensFindings {scope : Scope} (screens : List Screen) :
    Reports (·.flaw.Fair scope.known) (screensFindings scope screens) := by
  induction screens with
  | nil => exact reports_pure fun _ hf ↦ nomatch hf
  | cons screen screens ih =>
    exact (reports_itemsFindings screen.id screen.items).both ih fun _ _ first rest f hf ↦
      (List.mem_append.mp hf).elim (first f) (rest f)

/-- A variable that a check of a document calls unset is none that the document knows. -/
theorem not_known_of_mem_findings {d : Document} {f : Finding} (found : f ∈ (check d).findings)
    {name : String} (unset : f.flaw.unset? = some name) : name ∉ d.knownVariables :=
  @reports_screensFindings (.of d) d.screens _ f found name unset

end Teletype.Lint
