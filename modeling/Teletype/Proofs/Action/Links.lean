import Teletype.Document.Links
import Teletype.Proofs.Keeps
/-!
# Where an action may lead

An action may lead to the screens that its links name, those in either branch of a condition among
them. Whatever the variables are, what it signals when it is carried out is one of these links.
-/

namespace Teletype

mutual

/-- A link to a screen stands somewhere in an action. -/
inductive Action.LinksTo (target : String) : Action → Prop
  | chain {steps : List Step} {step : Step} (member : step ∈ steps)
    (links : Step.LinksTo target step) : Action.LinksTo target (.chain steps)
  | single {step : Step} (links : Step.LinksTo target step) : Action.LinksTo target (.single step)

/-- A step is a link to a screen, or one stands in a branch of it. -/
inductive Step.LinksTo (target : String) : Step → Prop
  | link (shift : Bool) : Step.LinksTo target (.link target shift)
  | whenTrue {test : Condition} {whenTrue whenFalse : Action}
    (links : Action.LinksTo target whenTrue) : Step.LinksTo target (.branch test whenTrue whenFalse)
  | whenFalse {test : Condition} {whenTrue whenFalse : Action}
    (links : Action.LinksTo target whenFalse) :
    Step.LinksTo target (.branch test whenTrue whenFalse)

end

/-- Signals lead only to screens with a property. -/
def Signal.LeadOnly (p : String → Prop) (signals : List Signal) : Prop :=
  ∀ target, Signal.navigate target ∈ signals → p target

/-- Signals that lead nowhere lead only to screens with any property. -/
theorem Signal.leadOnly_nil (p : String → Prop) : LeadOnly p [] := by
  intro _ member
  cases member

variable {target : String}

/-- A link stands in a chain if it stands in one of the steps. -/
theorem Action.linksTo_chain {steps : List Step} :
    (chain steps).LinksTo target ↔ ∃ step ∈ steps, step.LinksTo target := by
  constructor
  · rintro (⟨member, links⟩ | _)
    exact ⟨_, member, links⟩
  · rintro ⟨step, member, links⟩
    exact .chain member links

/-- A link stands in a single step if it stands in the step. -/
theorem Action.linksTo_single {step : Step} :
    (single step).LinksTo target ↔ step.LinksTo target := by
  constructor
  · rintro (_ | links)
    exact links
  · exact .single

/-- A link stands in a branch if it stands in one of the two actions. -/
theorem Step.linksTo_branch {test : Condition} {whenTrue whenFalse : Action} :
    (branch test whenTrue whenFalse).LinksTo target ↔
      whenTrue.LinksTo target ∨ whenFalse.LinksTo target := by
  constructor
  · rintro (_ | links | links)
    · exact .inl links
    · exact .inr links
  · rintro (links | links)
    · exact .whenTrue links
    · exact .whenFalse links

mutual

/-- The links that stand in an action are the link steps among all its steps. -/
theorem Action.linksTo_iff (a : Action) :
    a.LinksTo target ↔ ∃ shift, Step.link target shift ∈ a.everyStep := by
  cases a with
  | chain steps => rw [Action.linksTo_chain, Action.everyStep, Action.exists_linksTo_iff steps]
  | single step => rw [Action.linksTo_single, Action.everyStep, step.linksTo_iff]

/-- The links that stand in several steps are the link steps among all of theirs. -/
theorem Action.exists_linksTo_iff (steps : List Step) :
    (∃ step ∈ steps, step.LinksTo target) ↔
      ∃ shift, Step.link target shift ∈ Action.everyStepOfAll steps := by
  cases steps with
  | nil => simp [Action.everyStepOfAll]
  | cons step steps =>
    simp only [Action.everyStepOfAll, List.mem_append, exists_or, List.mem_cons, exists_eq_or_imp,
      step.linksTo_iff, Action.exists_linksTo_iff steps]

/-- The links that stand in a step are the link steps among itself and those of its branches. -/
theorem Step.linksTo_iff (step : Step) :
    step.LinksTo target ↔ ∃ shift, Step.link target shift ∈ Action.everyStepOf step := by
  cases step with
  | link other shift =>
    constructor
    · rintro ⟨_⟩
      exact ⟨shift, by simp [Action.everyStepOf]⟩
    · rintro ⟨other, member⟩
      obtain ⟨rfl, -⟩ : target = _ ∧ _ := by simpa [Action.everyStepOf] using member
      exact .link shift
  | branch test whenTrue whenFalse =>
    simp only [Step.linksTo_branch, Action.everyStepOf, List.cons_append, List.mem_cons,
      List.mem_append, reduceCtorEq, false_or, exists_or, whenTrue.linksTo_iff,
      whenFalse.linksTo_iff]
  | dialog | toggle | mutate | unknown =>
    constructor
    · rintro ⟨_⟩
    · rintro ⟨_, member⟩
      simp [Action.everyStepOf] at member

end

/-- Work that signals only links with a property, if it succeeds. -/
abbrev Work.LeadsOnly (p : String → Prop) (w : Work (List Signal)) : Prop :=
  Keeps (fun _ ↦ True) (fun _ ↦ True) (Signal.LeadOnly p) w

namespace Action

mutual

/-- An action signals only links that stand in it, whichever branches it takes. -/
theorem leadsOnly_perform (lastCommand : Option String) (a : Action) :
    (a.perform lastCommand).LeadsOnly fun target ↦ a.LinksTo target := by
  cases a with
  | chain steps =>
    simp only [linksTo_chain]
    exact leadsOnly_performAll lastCommand steps
  | single step =>
    simp only [linksTo_single]
    exact leadsOnly_performStep lastCommand step

/-- Steps signal only links that stand in one of them. -/
theorem leadsOnly_performAll (lastCommand : Option String) (steps : List Step) :
    (performAll lastCommand steps).LeadsOnly fun target ↦ ∃ step ∈ steps, step.LinksTo target := by
  cases steps with
  | nil => exact keeps_pure (Signal.leadOnly_nil _)
  | cons step steps =>
    refine (leadsOnly_performStep lastCommand step).bind fun first hfirst ↦
      (leadsOnly_performAll lastCommand steps).bind fun rest hrest ↦
        keeps_pure fun target member ↦ ?_
    rcases List.mem_append.mp member with member | member
    · exact ⟨step, List.mem_cons_self, hfirst target member⟩
    · obtain ⟨later, hm, links⟩ := hrest target member
      exact ⟨later, List.mem_cons_of_mem step hm, links⟩

/-- A step signals only links that stand in it. -/
theorem leadsOnly_performStep (lastCommand : Option String) (step : Step) :
    (performStep lastCommand step).LeadsOnly fun target ↦ step.LinksTo target := by
  cases step with
  | link target shift =>
    refine keeps_pure fun other member ↦ ?_
    obtain rfl : other = target := by simpa using member
    exact .link shift
  | dialog target => exact keeps_pure (by simp [Signal.LeadOnly])
  | toggle target =>
    exact (preserves_true _).bind fun _ _ ↦ keeps_pure (Signal.leadOnly_nil _)
  | mutate target m =>
    exact (preserves_true _).bind fun _ _ ↦ keeps_pure (Signal.leadOnly_nil _)
  | branch test whenTrue whenFalse =>
    simp only [Step.linksTo_branch]
    refine keeps_get.bind fun w _ ↦ ?_
    split
    · exact (leadsOnly_perform lastCommand whenTrue).weaken fun _ h target hm ↦ .inl (h target hm)
    · exact (leadsOnly_perform lastCommand whenFalse).weaken fun _ h target hm ↦ .inr (h target hm)
  | unknown => exact keeps_throw trivial

end

end Action

/-- A command signals only links that stand in its action. -/
theorem Command.leadsOnly_run (c : Command) (input : String) :
    Keeps (fun _ ↦ True) (fun _ ↦ True)
      (fun o : DispatchOutcome ↦ Signal.LeadOnly (fun target ↦ c.action.LinksTo target) o.signals)
      (c.run input) :=
  (preserves_true _).bind fun _ _ ↦
    (c.action.leadsOnly_perform (some input)).bind fun _ h ↦ keeps_pure h

end Teletype
