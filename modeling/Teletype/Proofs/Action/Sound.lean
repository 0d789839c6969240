import Teletype.Proofs.Keeps
import Teletype.Proofs.Lint.Sound
import Teletype.Session.Play
/-!
# Carrying out sound actions

A sound action fails at most because a value is not a number, whatever the store, the toggles and
the random source are, and what it signals leads to screens and dialogs of the document.
-/

namespace Teletype

/-- A failure for which an action is to blame, and not the values it meets. -/
def ActionError.IsFlaw : ActionError → Prop
  | .rule _ | .unknownMutation _ | .unknownStep => True
  | .store _ => False

/-- A signal that leads to what exists. -/
def Signal.Leads (d : Document) : Signal → Prop
  | .navigate screen => (d.screen? screen).isSome = true
  | .dialog id => (d.dialog? id).isSome = true

/-- Work that fails at most because of the values it meets, and gives only certain results. -/
abbrev Work.Sound {α : Type} (gives : α → Prop) (w : Work α) : Prop :=
  Keeps (fun _ ↦ True) (fun e : ActionError ↦ ¬ e.IsFlaw) gives w

private theorem Work.sound_modify (f : World → World) :
    Work.Sound (fun _ ↦ True) (modify f : Work PUnit) := keeps_modify fun _ _ ↦ trivial

namespace World

private theorem sound_generate {rule : String} (h : Rule.fault? rule = none) :
    Work.Sound (fun _ ↦ True) (generate rule) := by
  intro w _
  obtain ⟨value, hv⟩ := Rule.exists_generate_eq_ok h w.random
  rcases hg : Rule.generate rule w.random with ⟨result, random⟩
  rw [hg] at hv
  cases hv
  simp [generate, hg]

private theorem sound_count (counting : Counting) (name : String) (amount : Float) :
    Work.Sound (fun _ ↦ True) (count counting name amount) := by
  intro w _
  cases hc : w.store.count counting name amount with
  | ok store => simp [count, hc]
  | error e => simp [count, hc, ActionError.IsFlaw]

end World

/-- A sound change of a variable fails at most because a value is not a number. -/
theorem Mutation.IsSound.sound_apply {m : Mutation} (h : m.IsSound) (target : String)
    (lastCommand : Option String) : Work.Sound (fun _ ↦ True) (m.apply target lastCommand) := by
  obtain ⟨kind, value, rule⟩ := m
  cases kind with
  | set =>
    cases value with
    | some value => exact Work.sound_modify _
    | none =>
      cases rule with
      | none => exact Work.sound_modify _
      | some rule =>
        exact (World.sound_generate (h.faultless rule rfl)).bind fun _ _ ↦ Work.sound_modify _
  | toggle => exact Work.sound_modify _
  | count counting => exact World.sound_count _ _ _
  | concatenate => exact Work.sound_modify _
  | unsupported name => exact absurd rfl (h.supported name)

namespace Action

variable {d : Document}

mutual

/-- A sound action fails at most because a value is not a number, and leads to what exists. -/
theorem sound_perform (lastCommand : Option String) (a : Action) (h : a.IsSound d) :
    Work.Sound (∀ signal ∈ ·, signal.Leads d) (a.perform lastCommand) := by
  cases a with
  | chain steps => exact sound_performAll lastCommand steps h
  | single step => exact sound_performStep lastCommand step h

/-- Sound steps fail at most because a value is not a number, and lead to what exists. -/
theorem sound_performAll (lastCommand : Option String) (steps : List Step)
    (h : ∀ step ∈ everyStepOfAll steps, step.IsSound d) :
    Work.Sound (∀ signal ∈ ·, signal.Leads d) (performAll lastCommand steps) := by
  cases steps with
  | nil => exact keeps_pure (by simp)
  | cons step steps =>
    have first := sound_performStep lastCommand step
      fun s hs ↦ h s (List.mem_append_left _ hs)
    have rest := sound_performAll lastCommand steps
      fun s hs ↦ h s (List.mem_append_right _ hs)
    refine first.bind fun before hb ↦ rest.bind fun behind hr ↦ keeps_pure fun signal hs ↦ ?_
    exact (List.mem_append.mp hs).elim (hb signal) (hr signal)

/-- A sound step fails at most because a value is not a number, and leads to what exists. -/
theorem sound_performStep (lastCommand : Option String) (step : Step)
    (h : ∀ s ∈ everyStepOf step, s.IsSound d) :
    Work.Sound (∀ signal ∈ ·, signal.Leads d) (performStep lastCommand step) := by
  cases step with
  | link target shift =>
    exact keeps_pure (by simpa [everyStepOf, Step.IsSound, Signal.Leads] using h)
  | dialog target =>
    exact keeps_pure (by simpa [everyStepOf, Step.IsSound, Signal.Leads] using h)
  | toggle target => exact (Work.sound_modify _).bind fun _ _ ↦ keeps_pure (by simp)
  | mutate target m =>
    have hm : m.IsSound := by simpa [everyStepOf, Step.IsSound] using h
    exact (hm.sound_apply target lastCommand).bind fun _ _ ↦ keeps_pure (by simp)
  | branch test whenTrue whenFalse =>
    refine keeps_get.bind fun w _ ↦ ?_
    split
    · exact sound_perform lastCommand whenTrue fun s hs ↦ h s (by simp [everyStepOf, hs])
    · exact sound_perform lastCommand whenFalse fun s hs ↦ h s (by simp [everyStepOf, hs])
  | unknown => exact absurd (h .unknown (by simp [everyStepOf])) id

end

end Action

/-- Sound changes of variables one after another fail at most because a value is not a number. -/
theorem Mutation.sound_applyAll {changes : List (String × Mutation)}
    (h : ∀ change ∈ changes, change.2.IsSound) :
    Work.Sound (fun _ ↦ True) (applyAll changes) := by
  induction changes with
  | nil => exact keeps_pure trivial
  | cons change changes ih =>
    obtain ⟨first, rest⟩ := List.forall_mem_cons.mp h
    exact (first.sound_apply change.1 none).bind fun _ _ ↦ ih rest

/-- A command with a sound action fails at most because a value is not a number, and leads to what
exists. -/
theorem Command.sound_run {d : Document} {c : Command} (h : c.action.IsSound d) (input : String) :
    Work.Sound (fun o ↦ ∀ signal ∈ o.signals, signal.Leads d) (c.run input) :=
  (Work.sound_modify _).bind fun _ _ ↦
    (Action.sound_perform (some input) c.action h).bind fun _ hs ↦ keeps_pure hs

end Teletype
