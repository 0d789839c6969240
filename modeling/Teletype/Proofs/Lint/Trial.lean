import Teletype.Lint.Check
import Teletype.Proofs.Keeps
import Teletype.Proofs.Rule.Shape
/-!
# Trying rules out

A change of a variable fails by its rule in every world or in none. A check of a document tries each
rule once, all of them on one random source, and names exactly those by which a change fails when
the document is played.
-/

namespace Teletype

/-! ## Changes of variables that fail by their rule -/

namespace Mutation

/-- A change of a variable makes its value up by a rule that has a fault. -/
def Breaks (m : Mutation) (e : RuleError) : Prop :=
  ∃ rule, Lint.Scope.usedRule? m = some rule ∧ Rule.fault? rule = some e

/-- The rule of a change is used when the change sets a variable and no value is given. -/
theorem usedRule?_eq_some_iff {m : Mutation} {rule : String} :
    Lint.Scope.usedRule? m = some rule ↔ m = ⟨.set, none, some rule⟩ := by
  obtain ⟨kind, value, other⟩ := m
  cases kind <;> cases value <;> simp [Lint.Scope.usedRule?]

/-- Only a change that uses its rule fails by one. -/
private theorem exists_usedRule? {m : Mutation} {target : String} {lastCommand : Option String}
    {w after : World} {e : RuleError}
    (failed : m.apply target lastCommand w = .error (.rule e) after) :
    ∃ rule, m = ⟨.set, none, some rule⟩ := by
  obtain ⟨kind, value, rule⟩ := m
  cases kind with
  | set =>
    cases value with
    | some value => cases failed
    | none =>
      cases rule with
      | some rule => exact ⟨rule, rfl⟩
      | none => cases failed
  | toggle | concatenate | unsupported => cases failed
  | count counting =>
    simp only [apply, World.count] at failed
    split at failed <;> cases failed

/-- Making a value up in a world fails by the rule exactly with the fault of the rule. -/
private theorem exists_generate_eq_error_iff (rule : String) (w : World) {e : RuleError} :
    (∃ after, World.generate rule w = .error (.rule e) after) ↔ Rule.fault? rule = some e := by
  rw [← Rule.generate_eq_error_iff rule w.random, World.generate]
  rcases Rule.generate rule w.random with ⟨value | f, random⟩ <;> simp

/-- A change of a variable fails by its rule exactly when it makes its value up by one that has a
fault, whatever the world is. -/
theorem exists_rule_error_iff (m : Mutation) (target : String) (lastCommand : Option String)
    (w : World) (e : RuleError) :
    (∃ after, m.apply target lastCommand w = .error (.rule e) after) ↔ m.Breaks e := by
  constructor
  · rintro ⟨after, failed⟩
    obtain ⟨rule, rfl⟩ := exists_usedRule? failed
    refine ⟨rule, rfl, (exists_generate_eq_error_iff rule w).mp ⟨after, ?_⟩⟩
    rcases bind_eq_error_iff.mp failed with failed | ⟨value, between, -, set⟩
    · exact failed
    · cases set
  · rintro ⟨rule, used, fault⟩
    obtain rfl := usedRule?_eq_some_iff.mp used
    obtain ⟨after, failed⟩ := (exists_generate_eq_error_iff rule w).mpr fault
    exact ⟨after, bind_of_error failed _⟩

end Mutation

/-- A step changes a variable by a rule that has a fault. -/
def Step.Breaks (e : RuleError) : Step → Prop
  | mutate _ m => m.Breaks e
  | _ => False

/-- A change of a variable that some content is, or that one of its steps makes, however deep it
stands. -/
def Content.Makes (c : Content) (target : String) (m : Mutation) : Prop :=
  c = .mutate target m ∨ ∃ action ∈ c.actions, .mutate target m ∈ action.everyStep

/-- Content makes a change that fails by its rule when it is one, or when one of its steps is. -/
theorem Content.exists_makes_iff {c : Content} {e : RuleError} :
    (∃ target m, c.Makes target m ∧ m.Breaks e) ↔
      (∃ target m, c = .mutate target m ∧ m.Breaks e) ∨
        ∃ action ∈ c.actions, ∃ step ∈ action.everyStep, step.Breaks e := by
  constructor
  · rintro ⟨target, m, own | ⟨action, member, inside⟩, breaks⟩
    · exact .inl ⟨target, m, own, breaks⟩
    · exact .inr ⟨action, member, .mutate target m, inside, breaks⟩
  · rintro (⟨target, m, own, breaks⟩ | ⟨action, member, step, inside, breaks⟩)
    · exact ⟨target, m, .inl own, breaks⟩
    · cases step with
      | mutate target m => exact ⟨target, m, .inr ⟨action, member, inside⟩, breaks⟩
      | link | dialog | toggle | branch | unknown => cases breaks

/-! ## What a check says of rules -/

namespace Lint

/-- A check that reports something exactly if a proposition holds, whatever the random source is. -/
def Decides {α : Type} (a : α) (p : Prop) (x : StateM Random.Source (List α)) : Prop :=
  ∀ source, a ∈ (x.run source).1 ↔ p

section Decides

variable {α β γ : Type} {a : α} {b : β} {c : γ} {p q r : Prop}

private theorem decides_pure {as : List α} (h : a ∈ as ↔ p) : Decides a p (pure as) := fun _ ↦ h

private theorem Decides.one {x : StateM Random.Source (List α)} {g : List α → List γ}
    (hx : Decides a p x) (made : ∀ as, (a ∈ as ↔ p) → (c ∈ g as ↔ r)) :
    Decides c r (do return g (← x)) :=
  fun source ↦ made _ (hx source)

private theorem Decides.both {x : StateM Random.Source (List α)}
    {y : StateM Random.Source (List β)} {g : List α → List β → List γ} (hx : Decides a p x)
    (hy : Decides b q y)
    (made : ∀ as bs, (a ∈ as ↔ p) → (b ∈ bs ↔ q) → (c ∈ g as bs ↔ r)) :
    Decides c r (do return g (← x) (← y)) :=
  fun source ↦ made _ _ (hx source) (hy _)

end Decides

namespace Scope

variable {scope : Scope} {e : RuleError}

/-- A check of a change reports the fault of the rule by which the change fails. -/
theorem decides_mutationFlaws (target : String) (m : Mutation) (e : RuleError) :
    Decides (.badRule e) (m.Breaks e) (mutationFlaws target m) := by
  unfold mutationFlaws Mutation.Breaks
  split
  · next name kind => exact decides_pure (by simp [usedRule?, kind])
  · split
    · next rule used =>
      intro source
      have fault := Rule.generate_eq_error_iff rule source e
      simp only [StateT.run, used, Option.some.injEq, exists_eq_left', ← fault]
      rcases Rule.generate rule source with ⟨value | f, after⟩ <;> simp [eq_comm]
    · next unused => exact decides_pure (by simp [unused])

/-- A check of a step reports the fault of the rule by which its change of a variable fails. -/
theorem decides_stepFlaws (step : Step) (e : RuleError) :
    Decides (.badRule e) (step.Breaks e) (scope.stepFlaws step) := by
  cases step with
  | link | dialog | toggle =>
    refine decides_pure ?_
    split <;> simp [Step.Breaks]
  | mutate target m => exact decides_mutationFlaws target m e
  | branch | unknown => exact decides_pure (by simp [Step.Breaks])

/-- A check of several steps reports the faults of all of them. -/
theorem decides_stepsFlaws (steps : List Step) (e : RuleError) :
    Decides (.badRule e) (∃ step ∈ steps, step.Breaks e) (scope.stepsFlaws steps) := by
  induction steps with
  | nil => exact decides_pure (by simp)
  | cons step steps ih =>
    refine (decides_stepFlaws step e).both ih fun first rest here behind ↦ ?_
    rw [List.mem_append, here, behind]
    simp

/-- What is said of patterns is nothing about rules. -/
private theorem badRule_not_mem_patternFlaws (c : Command) : .badRule e ∉ patternFlaws c := by
  unfold patternFlaws
  split <;> simp

/-- What is said of placeholders is nothing about rules. -/
private theorem badRule_not_mem_textFlaws (text : String) : .badRule e ∉ scope.textFlaws text := by
  simp [textFlaws]

private theorem decides_commandsFlaws (commands : List Command) (e : RuleError) :
    Decides (.badRule e) (∃ action ∈ commands.map Command.action, ∃ step ∈ action.everyStep,
      step.Breaks e) (scope.commandsFlaws commands) := by
  induction commands with
  | nil => exact decides_pure (by simp)
  | cons c commands ih =>
    refine (decides_stepsFlaws c.action.everyStep e).both ih fun first rest here behind ↦ ?_
    rw [List.mem_append, List.mem_append, here, behind]
    simp [badRule_not_mem_patternFlaws]

/-- A check of some content reports the fault of every rule by which a change in it fails. -/
theorem decides_contentFlaws (c : Content) (e : RuleError) :
    Decides (.badRule e) (∃ target m, c.Makes target m ∧ m.Breaks e) (scope.contentFlaws c) := by
  rw [Content.exists_makes_iff]
  cases c with
  | text text options =>
    exact decides_pure (by simp [badRule_not_mem_textFlaws, Content.actions])
  | bitmap | countdown => exact decides_pure (by simp [Content.actions])
  | toggle states options =>
    refine decides_pure ?_
    split <;> simp [badRule_not_mem_textFlaws, Content.actions]
  | mutate target m =>
    intro source
    refine (decides_mutationFlaws target m e source).trans ⟨fun breaks ↦ ?_, ?_⟩
    · exact .inl ⟨target, m, rfl, breaks⟩
    · rintro (⟨_, _, ⟨⟩, breaks⟩ | ⟨_, ⟨⟩, _⟩)
      exact breaks
  | prompt p =>
    refine (decides_commandsFlaws p.commands e).one fun flaws inside ↦ ?_
    rw [List.mem_append, inside]
    split <;> simp [Content.actions]
  | link text l options =>
    obtain ⟨base, shift⟩ := l
    have first := @decides_stepsFlaws scope base.everyStep e
    cases shift with
    | none =>
      refine Decides.one (x := scope.actionFlaws base) first fun flaws inside ↦ ?_
      rw [List.append_nil, List.mem_append, inside]
      simp [badRule_not_mem_textFlaws, Content.actions]
    | some action =>
      refine Decides.both (x := scope.actionFlaws base) (y := scope.actionFlaws action) first
        (decides_stepsFlaws action.everyStep e) fun flaws others inside behind ↦ ?_
      rw [List.mem_append, List.mem_append, inside, behind]
      simp [badRule_not_mem_textFlaws, Content.actions]

end Scope

section Findings

variable {scope : Scope} (place id : String) (e : RuleError)

private theorem decides_itemsFindings (screen : String) (items : List Item) :
    Decides ⟨place, id, .badRule e⟩ (screen = place ∧ ∃ item ∈ items, item.id = id ∧
      ∃ target m, item.content.Makes target m ∧ m.Breaks e) (itemsFindings scope screen items) := by
  induction items with
  | nil => exact decides_pure (by simp)
  | cons item items ih =>
    refine (Scope.decides_contentFlaws item.content e).both ih fun flaws rest here behind ↦ ?_
    have found : ⟨place, id, .badRule e⟩ ∈ flaws.map (Finding.mk screen item.id) ↔
        screen = place ∧ item.id = id ∧ .badRule e ∈ flaws := by
      constructor
      · intro mem
        obtain ⟨flaw, inside, same⟩ := List.mem_map.mp mem
        cases same
        exact ⟨rfl, rfl, inside⟩
      · rintro ⟨rfl, rfl, inside⟩
        exact List.mem_map_of_mem inside
    rw [List.mem_append, behind, found, here, ← and_or_left]
    simp

private theorem decides_screensFindings (screens : List Screen) :
    Decides ⟨place, id, .badRule e⟩ (∃ screen ∈ screens, screen.id = place ∧
      ∃ item ∈ screen.items, item.id = id ∧ ∃ target m, item.content.Makes target m ∧ m.Breaks e)
      (screensFindings scope screens) := by
  induction screens with
  | nil => exact decides_pure (by simp)
  | cons screen screens ih =>
    refine (decides_itemsFindings place id e screen.id screen.items).both ih
      fun first rest here behind ↦ ?_
    rw [List.mem_append, here, behind]
    simp

/-- A check reports that a rule is wrong at an item exactly when the rule of a change at such an
item has a fault. -/
theorem badRule_mem_findings_iff (d : Document) :
    ⟨place, id, .badRule e⟩ ∈ (check d).findings ↔
      ∃ screen ∈ d.screens, screen.id = place ∧ ∃ item ∈ screen.items, item.id = id ∧
        ∃ target m, item.content.Makes target m ∧ m.Breaks e :=
  decides_screensFindings place id e d.screens (.ofSeed 0)

end Findings

/-- Whether a rule works does not depend on the random source: from any two of them it fails in the
same way, or gives values of one kind, texts of the same length among them. So the one trial that a
check makes of each rule, on whatever source the trials before it have left, names exactly the rules
by which some change of a variable can fail when the document is played. -/
theorem one_trial_decides :
    (∀ (rule : String) (first second : Random.Source),
      (∃ e, (Rule.generate rule first).1 = .error e ∧ (Rule.generate rule second).1 = .error e) ∨
        ∃ v w, (Rule.generate rule first).1 = .ok v ∧ (Rule.generate rule second).1 = .ok w ∧
          v.shape = w.shape) ∧
      ∀ (d : Document) (place id : String) (e : RuleError),
        ⟨place, id, .badRule e⟩ ∈ (check d).findings ↔
          ∃ screen ∈ d.screens, screen.id = place ∧ ∃ item ∈ screen.items, item.id = id ∧
            ∃ target m, item.content.Makes target m ∧
              ∃ lastCommand w after, m.apply target lastCommand w = .error (.rule e) after := by
  refine ⟨Rule.generate_alike, fun d place id e ↦ ?_⟩
  have in_some_world (target : String) (m : Mutation) :
      (∃ lastCommand w after, m.apply target lastCommand w = .error (.rule e) after) ↔
        m.Breaks e := by
    constructor
    · rintro ⟨lastCommand, w, failed⟩
      exact (m.exists_rule_error_iff target lastCommand w e).mp failed
    · intro breaks
      -- a rule with a fault fails in every world, so that any will do
      have w : World := ⟨.empty, .ofToggles [], .ofSeed 0⟩
      exact ⟨none, w, (m.exists_rule_error_iff target none w e).mpr breaks⟩
  simp only [in_some_world]
  exact badRule_mem_findings_iff place id e d

end Lint

end Teletype
