import Teletype.Lint.Check
import Teletype.Proofs.Rule.Fault
/-!
# Documents without errors

What it means that no step of a document can fail for its own sake: links and dialogs lead to what
exists, every kind of step and of change is understood, and rules that are used have no fault. A
check that finds no errors shows this of every step at any depth, although it tries each rule only
once and goes on with one random source from rule to rule.
-/

namespace Teletype

/-- A change of a variable that is understood, with a rule that has no fault if it uses one. -/
structure Mutation.IsSound (m : Mutation) : Prop where
  supported : ∀ name, m.kind ≠ .unsupported name
  faultless : ∀ rule, Lint.Scope.usedRule? m = some rule → Rule.fault? rule = none

/-- A step that is understood and leads to what exists. -/
def Step.IsSound (d : Document) : Step → Prop
  | .link target _ => (d.screen? target).isSome = true
  | .dialog target => (d.dialog? target).isSome = true
  | .mutate _ m => m.IsSound
  | .toggle _ | .branch .. => True
  | .unknown => False

/-- An action whose steps are sound at every depth. -/
def Action.IsSound (d : Document) (a : Action) : Prop := ∀ step ∈ a.everyStep, step.IsSound d

/-- An item whose actions are sound, and whose own change of a variable is. -/
structure Content.IsSound (d : Document) (c : Content) : Prop where
  actions : ∀ a ∈ c.actions, a.IsSound d
  mutation : ∀ target m, c = .mutate target m → m.IsSound

/-- A document all of whose items are sound. -/
def Document.IsSound (d : Document) : Prop :=
  ∀ screen ∈ d.screens, ∀ item ∈ screen.items, item.content.IsSound d

namespace Lint

/-- A check that, from some random source, reports only what is harmless. -/
def Clean {α : Type} (harmless : α → Prop) (x : StateM Random.Source (List α)) : Prop :=
  ∃ source, ∀ a ∈ (x.run source).1, harmless a

/-- What is no error. -/
def Flaw.Harmless (f : Flaw) : Prop := f.isError = false

section Clean

variable {α β γ : Type} {p : α → Prop} {q : β → Prop} {r : γ → Prop}

/-- Two checks are clean when what is made of their reports together is. -/
theorem Clean.both {x : StateM Random.Source (List α)} {y : StateM Random.Source (List β)}
    {g : List α → List β → List γ}
    (first : ∀ as bs, (∀ c ∈ g as bs, r c) → ∀ a ∈ as, p a)
    (second : ∀ as bs, (∀ c ∈ g as bs, r c) → ∀ b ∈ bs, q b)
    (h : Clean r (do return g (← x) (← y))) : Clean p x ∧ Clean q y := by
  obtain ⟨source, h⟩ := h
  exact ⟨⟨source, first _ _ h⟩, ⟨(x.run source).2, second _ _ h⟩⟩

/-- A check is clean when what is made of its report is. -/
theorem Clean.one {x : StateM Random.Source (List α)} {g : List α → List γ}
    (part : ∀ as, (∀ c ∈ g as, r c) → ∀ a ∈ as, p a) (h : Clean r (do return g (← x))) :
    Clean p x := by
  obtain ⟨source, h⟩ := h
  exact ⟨source, part _ h⟩

/-- A check that reports some things in any case is clean when they are harmless. -/
theorem Clean.of_pure {as : List α} (h : Clean p (pure as)) : ∀ a ∈ as, p a := by
  obtain ⟨_, h⟩ := h
  exact h

end Clean

namespace Scope

variable {scope : Scope}

/-- A change of a variable in which a check finds no error is sound. -/
theorem isSound_of_mutationFlaws {target : String} {m : Mutation}
    (h : Clean Flaw.Harmless (mutationFlaws target m)) : m.IsSound := by
  have supported : ∀ name, m.kind ≠ .unsupported name := by
    intro name hk
    simp only [mutationFlaws, hk] at h
    exact absurd (h.of_pure _ List.mem_cons_self) (by simp [Flaw.Harmless, Flaw.isError])
  refine ⟨supported, fun rule hr ↦ ?_⟩
  -- the check has tried the rule on one source only, but whether it fails does not depend on that
  obtain ⟨source, h⟩ := h
  cases hf : Rule.fault? rule with
  | none => rfl
  | some e =>
    have hg := (Rule.generate_eq_error_iff rule source e).mpr hf
    have hm : Flaw.badRule e ∈ ((mutationFlaws target m).run source).1 := by
      rcases hres : Rule.generate rule source with ⟨result, after⟩
      rw [hres] at hg
      cases hg
      unfold mutationFlaws
      split
      · next name hk => exact absurd hk (supported name)
      · simp [hr, hres, StateT.run]
    exact absurd (h _ hm) (by simp [Flaw.Harmless, Flaw.isError])

/-- A step in which a check finds no error is sound. -/
theorem isSound_of_stepFlaws {step : Step} (h : Clean Flaw.Harmless (scope.stepFlaws step)) :
    step.IsSound scope.document := by
  cases step with
  | link target shift =>
    simp only [stepFlaws] at h
    split at h
    · assumption
    · exact absurd (h.of_pure _ List.mem_cons_self) (by simp [Flaw.Harmless, Flaw.isError])
  | dialog target =>
    simp only [stepFlaws] at h
    split at h
    · assumption
    · exact absurd (h.of_pure _ List.mem_cons_self) (by simp [Flaw.Harmless, Flaw.isError])
  | toggle target => trivial
  | mutate target m => exact isSound_of_mutationFlaws h
  | branch test whenTrue whenFalse => trivial
  | unknown =>
    simp only [stepFlaws] at h
    exact absurd (h.of_pure _ List.mem_cons_self) (by simp [Flaw.Harmless, Flaw.isError])

private theorem clean_stepFlaws {steps : List Step} (h : Clean Flaw.Harmless (scope.stepsFlaws steps)) :
    ∀ step ∈ steps, Clean Flaw.Harmless (scope.stepFlaws step) := by
  induction steps with
  | nil => simp
  | cons step steps ih =>
    obtain ⟨first, rest⟩ := Clean.both (g := (· ++ ·))
      (fun _ _ h a ha ↦ h a (List.mem_append_left _ ha))
      (fun _ _ h b hb ↦ h b (List.mem_append_right _ hb)) h
    exact List.forall_mem_cons.mpr ⟨first, ih rest⟩

/-- An action in which a check finds no error is sound. -/
theorem isSound_of_actionFlaws {a : Action} (h : Clean Flaw.Harmless (scope.actionFlaws a)) :
    a.IsSound scope.document :=
  fun step hs ↦ isSound_of_stepFlaws (clean_stepFlaws h step hs)

private theorem isSound_of_commandsFlaws {commands : List Command}
    (h : Clean Flaw.Harmless (scope.commandsFlaws commands)) :
    ∀ c ∈ commands, c.action.IsSound scope.document := by
  induction commands with
  | nil => simp
  | cons c commands ih =>
    obtain ⟨first, rest⟩ := Clean.both (g := fun first rest ↦ patternFlaws c ++ first ++ rest)
      (fun _ _ h a ha ↦ h a (by simp [ha])) (fun _ _ h b hb ↦ h b (by simp [hb])) h
    exact List.forall_mem_cons.mpr ⟨isSound_of_actionFlaws first, ih rest⟩

/-- An item in which a check finds no error is sound. -/
theorem isSound_of_contentFlaws {c : Content} (h : Clean Flaw.Harmless (scope.contentFlaws c)) :
    c.IsSound scope.document := by
  cases c with
  | text | bitmap | toggle | countdown => exact ⟨by simp [Content.actions], by simp⟩
  | mutate target m =>
    refine ⟨by simp [Content.actions], fun _ _ he ↦ ?_⟩
    cases he
    exact isSound_of_mutationFlaws h
  | prompt p =>
    refine ⟨?_, by simp⟩
    have := isSound_of_commandsFlaws (Clean.one (x := scope.commandsFlaws p.commands)
      (g := fun flaws ↦
        (if p.commands.isEmpty && !p.allowMetaCommands then [Flaw.noCommands] else []) ++ flaws)
      (fun _ h a ha ↦ h a (List.mem_append_right _ ha)) h)
    simpa [Content.actions] using this
  | link text l options =>
    refine ⟨?_, by simp⟩
    obtain ⟨base, shift⟩ := l
    cases shift with
    | none =>
      have first := Clean.one (x := scope.actionFlaws base)
        (g := fun base ↦ scope.textFlaws text ++ base ++ [])
        (fun _ h a ha ↦ h a (by simp [ha])) h
      simpa [Content.actions] using isSound_of_actionFlaws first
    | some action =>
      obtain ⟨first, second⟩ := Clean.both (x := scope.actionFlaws base)
        (y := scope.actionFlaws action)
        (g := fun base shift ↦ scope.textFlaws text ++ base ++ shift)
        (fun _ _ h a ha ↦ h a (by simp [ha])) (fun _ _ h b hb ↦ h b (by simp [hb])) h
      simpa [Content.actions] using
        And.intro (isSound_of_actionFlaws first) (isSound_of_actionFlaws second)

end Scope

section Findings

variable {scope : Scope} {harmless : Flaw → Prop}

private theorem clean_of_itemsFindings {screen : String} {items : List Item}
    (h : Clean (harmless ·.flaw) (itemsFindings scope screen items)) :
    ∀ item ∈ items, Clean harmless (scope.contentFlaws item.content) := by
  induction items with
  | nil => simp
  | cons item items ih =>
    obtain ⟨first, rest⟩ := Clean.both (p := harmless)
      (x := scope.contentFlaws item.content) (y := itemsFindings scope screen items)
      (g := fun flaws rest ↦ flaws.map (Finding.mk screen item.id) ++ rest)
      (fun _ _ h a ha ↦ h _ (List.mem_append_left _ (List.mem_map_of_mem ha)))
      (fun _ _ h b hb ↦ h b (List.mem_append_right _ hb)) h
    exact List.forall_mem_cons.mpr ⟨first, ih rest⟩

private theorem clean_of_screensFindings {screens : List Screen}
    (h : Clean (harmless ·.flaw) (screensFindings scope screens)) :
    ∀ screen ∈ screens, ∀ item ∈ screen.items,
      Clean harmless (scope.contentFlaws item.content) := by
  induction screens with
  | nil => simp
  | cons screen screens ih =>
    obtain ⟨first, rest⟩ := Clean.both (g := (· ++ ·))
      (fun _ _ h a ha ↦ h a (List.mem_append_left _ ha))
      (fun _ _ h b hb ↦ h b (List.mem_append_right _ hb)) h
    exact List.forall_mem_cons.mpr ⟨clean_of_itemsFindings first, ih rest⟩

/-- Where all findings of a check are harmless, the check of every item is clean. -/
theorem clean_of_check {d : Document} (h : ∀ f ∈ (check d).findings, harmless f.flaw) :
    ∀ screen ∈ d.screens, ∀ item ∈ screen.items,
      Clean harmless ((Scope.of d).contentFlaws item.content) :=
  clean_of_screensFindings ⟨.ofSeed 0, h⟩

end Findings

/-- A document in which a check finds no errors is sound. -/
theorem isSound_of_check {d : Document} (h : (check d).errors = []) : d.IsSound := by
  have harmless : ∀ f ∈ (check d).findings, f.flaw.Harmless := by
    intro f hf
    have := List.filter_eq_nil_iff.mp (List.map_eq_nil_iff.mp h) f hf
    simpa [Flaw.Harmless] using this
  intro screen hs item hi
  exact Scope.isSound_of_contentFlaws (clean_of_check harmless screen hs item hi)

end Lint

end Teletype
