import Teletype.Document.Links
import Teletype.Proofs.Action.Trace
/-!
# Actions without their signals

Links and dialogs only say where to go next. Without them an action does to the variables, the
toggles and the random source just what it does with them, takes the same branches, draws the same
characters and fails in the same place; and what it signals are the links and dialogs that it has
come to, in order.
-/

namespace Teletype

/-- The signal that a step gives, if it is a link or a dialog. -/
def Step.signal? : Step → Option Signal
  | .link target _ => some (.navigate target)
  | .dialog target => some (.dialog target)
  | .toggle _ | .mutate .. | .branch .. | .unknown => none

namespace Action

mutual

/-- An action without its links and dialogs, at any depth. -/
def strip : Action → Action
  | chain steps => chain (stripAll steps)
  | single step => chain (stripStep step)

/-- Steps without their links and dialogs. -/
def stripAll : List Step → List Step
  | [] => []
  | step :: steps => stripStep step ++ stripAll steps

/-- A step without its links and dialogs; nothing is left of one that is itself a link or a
dialog. -/
def stripStep : Step → List Step
  | .link .. | .dialog _ => []
  | .branch test whenTrue whenFalse => [.branch test (strip whenTrue) (strip whenFalse)]
  | step => [step]

end

section Silent

variable {lastCommand : Option String}

/-- Work without the signals that it gives. -/
def silent (x : Work (List Signal)) : Work (List Signal) := do
  let _ ← x
  return []

/-- Silent work leaves the world that the work leaves, and fails as it does. -/
theorem silent_apply (x : Work (List Signal)) (w : World) :
    silent x w = match x w with
      | .ok _ t => .ok [] t
      | .error e t => .error e t := by
  cases h : x w with
  | ok signals t => exact bind_of_ok h _
  | error e t => exact bind_of_error h _

mutual

/-- An action without its links and dialogs does silently what the action does. -/
theorem perform_strip_eq_silent (a : Action) :
    a.strip.perform lastCommand = silent (a.perform lastCommand) := by
  cases a with
  | chain steps => exact performAll_stripAll steps
  | single step => exact performAll_stripStep step

/-- Steps without their links and dialogs do silently what the steps do. -/
theorem performAll_stripAll (steps : List Step) :
    performAll lastCommand (stripAll steps) = silent (performAll lastCommand steps) := by
  cases steps with
  | nil => rfl
  | cons step steps =>
    rw [stripAll, performAll_append, performAll_stripStep step, performAll_stripAll steps]
    simp only [silent, performAll, bind_assoc, pure_bind, List.append_nil]

/-- A step without its links and dialogs does silently what the step does. -/
theorem performAll_stripStep (step : Step) :
    performAll lastCommand (stripStep step) = silent (performStep lastCommand step) := by
  cases step with
  | link | dialog | toggle | unknown => rfl
  | branch test whenTrue whenFalse =>
    -- the store is the same with and without the steps left out, and so is the choice
    funext w
    rw [stripStep, performAll_singleton, silent_apply, performStep_branch, performStep_branch]
    by_cases h : test.holds w.store = true
    · rw [if_pos h, if_pos h, perform_strip_eq_silent whenTrue, silent_apply]
    · rw [if_neg h, if_neg h, perform_strip_eq_silent whenFalse, silent_apply]
  | mutate target m =>
    change performAll lastCommand [.mutate target m] = _
    rw [performAll_singleton]
    simp only [silent, performStep, bind_assoc, pure_bind]

end

end Silent

section Signals

variable {lastCommand : Option String}

private theorem signals_of_performStep {step : Step} (plain : step.IsPlain) {w t : World}
    {signals : List Signal} (ok : performStep lastCommand step w = .ok signals t) :
    signals = step.signal?.toList := by
  cases step with
  | link | dialog | toggle =>
    cases ok
    rfl
  | mutate target m =>
    obtain ⟨_, _, -, ok⟩ := bind_eq_ok_iff.mp ok
    cases ok
    rfl
  | branch => exact plain.elim
  | unknown => cases ok

/-- Plain steps signal the links and dialogs among them, in order. -/
theorem signals_of_performAll {steps : List Step} (plain : ∀ step ∈ steps, step.IsPlain)
    {w t : World} {signals : List Signal} (ok : performAll lastCommand steps w = .ok signals t) :
    signals = steps.filterMap Step.signal? := by
  induction steps generalizing w signals with
  | nil =>
    cases ok
    rfl
  | cons step steps ih =>
    obtain ⟨hstep, hsteps⟩ := List.forall_mem_cons.mp plain
    unfold performAll at ok
    obtain ⟨first, u, first_ok, ok⟩ := bind_eq_ok_iff.mp ok
    obtain ⟨rest, v, rest_ok, ok⟩ := bind_eq_ok_iff.mp ok
    cases ok
    rw [signals_of_performStep hstep first_ok, ih hsteps rest_ok]
    cases h : step.signal? <;> simp [h]

end Signals

/-- Every step of two lists of steps is one of the first or one of the second. -/
theorem everyStepOfAll_append (steps more : List Step) :
    everyStepOfAll (steps ++ more) = everyStepOfAll steps ++ everyStepOfAll more := by
  induction steps with
  | nil => rfl
  | cons step steps ih =>
    simp only [List.cons_append, everyStepOfAll, ih, List.append_assoc]

mutual

/-- No link and no dialog is left of an action, at any depth. -/
theorem signal?_of_mem_everyStep_strip (a : Action) :
    ∀ step ∈ a.strip.everyStep, step.signal? = none := by
  cases a with
  | chain steps => exact signal?_of_mem_everyStep_stripAll steps
  | single step => exact signal?_of_mem_everyStep_stripStep step

/-- No link and no dialog is left of steps, at any depth. -/
theorem signal?_of_mem_everyStep_stripAll (steps : List Step) :
    ∀ step ∈ everyStepOfAll (stripAll steps), step.signal? = none := by
  cases steps with
  | nil => simp [stripAll, everyStepOfAll]
  | cons step steps =>
    rw [stripAll, everyStepOfAll_append]
    exact fun s hs ↦ (List.mem_append.mp hs).elim (signal?_of_mem_everyStep_stripStep step s)
      (signal?_of_mem_everyStep_stripAll steps s)

/-- No link and no dialog is left of a step, at any depth. -/
theorem signal?_of_mem_everyStep_stripStep (step : Step) :
    ∀ s ∈ everyStepOfAll (stripStep step), s.signal? = none := by
  cases step with
  | link | dialog => simp [stripStep, everyStepOfAll]
  | toggle | mutate | unknown =>
    simp [stripStep, everyStepOfAll, everyStepOf, Step.signal?]
  | branch test whenTrue whenFalse =>
    have first := signal?_of_mem_everyStep_strip whenTrue
    have second := signal?_of_mem_everyStep_strip whenFalse
    intro s hs
    simp only [stripStep, everyStepOfAll, everyStepOf, List.append_nil, List.cons_append,
      List.mem_cons, List.mem_append] at hs
    rcases hs with rfl | hs | hs
    · rfl
    · exact first s hs
    · exact second s hs

end

/-- Links and dialogs change nothing but the signals. Without them an action leaves the same
variables, toggles and random source, fails exactly when the action fails and with the same error,
and signals nothing. The action signals just the links and dialogs that it comes to, in order. -/
theorem perform_strip (lastCommand : Option String) (a : Action) (w : World) :
    (∀ step ∈ a.strip.everyStep, step.signal? = none) ∧
      (a.strip.perform lastCommand w =
        match a.perform lastCommand w with
        | .ok _ t => .ok [] t
        | .error e t => .error e t) ∧
      ∀ signals t, a.perform lastCommand w = .ok signals t →
        signals = (a.trace lastCommand w).filterMap Step.signal? := by
  refine ⟨signal?_of_mem_everyStep_strip a, ?_, fun signals t ok ↦ ?_⟩
  · rw [perform_strip_eq_silent, silent_apply]
  · rw [← performAll_trace] at ok
    exact signals_of_performAll (isPlain_of_mem_trace a w) ok

-- what a branch may lead to is left out of it
example (test : Condition) :
    (single (.branch test (chain [.toggle "lamp", .link "vault" false]) (chain []))).strip =
      chain [.branch test (chain [.toggle "lamp"]) (chain [])] := rfl

end Action

end Teletype
