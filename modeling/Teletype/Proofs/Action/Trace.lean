import Teletype.Action.Run
import Teletype.Proofs.Keeps
/-!
# What an action comes to

An action carries out its steps one after another, and a branch stands for the steps of the action
that it chooses. From a given world every action, however deep its branches are, therefore comes to
a list of plain steps. Carrying out that list is to carry out the action; when the action fails, it
is the last step of the list that fails, in the world that those before it have left.
-/

namespace Teletype

/-- A step that chooses nothing. -/
def Step.IsPlain : Step → Prop
  | .branch .. => False
  | .link .. | .dialog _ | .toggle _ | .mutate .. | .unknown => True

namespace Action

variable (lastCommand : Option String)

mutual

/-- The plain steps that an action carries out from a world, up to one that fails. -/
def trace : Action → World → List Step
  | chain steps, w => traceAll steps w
  | single step, w => traceStep step w

/-- The plain steps that several steps come to. Each step starts from the world that the one before
it has left; behind a step that fails there are none. -/
def traceAll : List Step → World → List Step
  | [], _ => []
  | step :: steps, w =>
    traceStep step w ++
      match performStep lastCommand step w with
      | .ok _ after => traceAll steps after
      | .error _ _ => []

/-- The plain steps that a step comes to. -/
def traceStep : Step → World → List Step
  | .branch test whenTrue whenFalse, w =>
    if test.holds w.store then trace whenTrue w else trace whenFalse w
  | step, _ => [step]

end

section Order

/-- One step by itself is carried out as a list of steps. -/
theorem performAll_singleton (step : Step) :
    performAll lastCommand [step] = performStep lastCommand step := by
  simp only [performAll, pure_bind, List.append_nil, bind_pure]

/-- An action is carried out by its steps. -/
theorem perform_eq_performAll (a : Action) :
    a.perform lastCommand = performAll lastCommand a.steps := by
  cases a with
  | chain steps => rfl
  | single step => exact (performAll_singleton lastCommand step).symm

/-- Steps behind others are carried out after them. -/
theorem performAll_append (steps more : List Step) :
    performAll lastCommand (steps ++ more) = do
      let first ← performAll lastCommand steps
      let rest ← performAll lastCommand more
      return first ++ rest := by
  induction steps with
  | nil => simp only [List.nil_append, performAll, pure_bind, bind_pure]
  | cons step steps ih =>
    simp only [List.cons_append, performAll, ih, bind_assoc, pure_bind, List.append_assoc]

variable {lastCommand} {steps : List Step} {w u : World} {signals : List Signal}

/-- What steps do behind others that have succeeded is what they do in the world left to them. -/
theorem performAll_append_of_ok (h : performAll lastCommand steps w = .ok signals u)
    (more : List Step) :
    performAll lastCommand (steps ++ more) w =
      match performAll lastCommand more u with
      | .ok rest t => .ok (signals ++ rest) t
      | .error e t => .error e t := by
  rw [performAll_append, bind_of_ok h]
  cases hm : performAll lastCommand more u with
  | ok rest t => exact bind_of_ok hm _
  | error e t => exact bind_of_error hm _

/-- Behind steps that have failed nothing is done. -/
theorem performAll_append_of_error {e : ActionError}
    (h : performAll lastCommand steps w = .error e u) (more : List Step) :
    performAll lastCommand (steps ++ more) w = .error e u := by
  rw [performAll_append]
  exact bind_of_error h _

variable (lastCommand) in
/-- A branch does what the action that it chooses does. -/
theorem performStep_branch (test : Condition) (whenTrue whenFalse : Action) (w : World) :
    performStep lastCommand (.branch test whenTrue whenFalse) w =
      (if test.holds w.store then whenTrue else whenFalse).perform lastCommand w := by
  simp only [performStep, get_bind]
  split <;> rfl

variable (lastCommand) in
/-- In the place of a branch may stand the steps of the action that it chooses. -/
theorem performAll_branch (test : Condition) (whenTrue whenFalse : Action) (steps : List Step)
    (w : World) :
    performAll lastCommand (.branch test whenTrue whenFalse :: steps) w =
      performAll lastCommand
        ((if test.holds w.store then whenTrue else whenFalse).steps ++ steps) w := by
  have same := performStep_branch lastCommand test whenTrue whenFalse w
  rw [performAll_append, ← perform_eq_performAll, performAll]
  cases h : performStep lastCommand (.branch test whenTrue whenFalse) w with
  | ok signals u => rw [bind_of_ok h, bind_of_ok (same.symm.trans h)]
  | error e u => rw [bind_of_error h, bind_of_error (same.symm.trans h)]

end Order

section Trace

variable {lastCommand}

/-- A plain step comes to itself. -/
theorem traceStep_of_isPlain {step : Step} (h : step.IsPlain) (w : World) :
    traceStep lastCommand step w = [step] := by
  cases step with
  | branch => exact h.elim
  | link | dialog | toggle | mutate | unknown => rfl

/-- Behind steps that succeed others come to what they come to in the world left to them. -/
theorem traceAll_cons_of_ok {step : Step} {w u : World} {signals : List Signal}
    (h : performStep lastCommand step w = .ok signals u) (steps : List Step) :
    traceAll lastCommand (step :: steps) w =
      traceStep lastCommand step w ++ traceAll lastCommand steps u := by
  simp only [traceAll, h]

/-- Behind a step that fails others come to nothing. -/
theorem traceAll_cons_of_error {step : Step} {w u : World} {e : ActionError}
    (h : performStep lastCommand step w = .error e u) (steps : List Step) :
    traceAll lastCommand (step :: steps) w = traceStep lastCommand step w := by
  simp only [traceAll, h, List.append_nil]

mutual

/-- What an action comes to are plain steps. -/
theorem isPlain_of_mem_trace (a : Action) (w : World) :
    ∀ step ∈ a.trace lastCommand w, step.IsPlain := by
  cases a with
  | chain steps => exact isPlain_of_mem_traceAll steps w
  | single step => exact isPlain_of_mem_traceStep step w

/-- What steps come to are plain steps. -/
theorem isPlain_of_mem_traceAll (steps : List Step) (w : World) :
    ∀ step ∈ traceAll lastCommand steps w, step.IsPlain := by
  cases steps with
  | nil => simp [traceAll]
  | cons step steps =>
    have first := isPlain_of_mem_traceStep step w
    cases h : performStep lastCommand step w with
    | ok signals u =>
      rw [traceAll_cons_of_ok h]
      exact fun s hs ↦ (List.mem_append.mp hs).elim (first s) (isPlain_of_mem_traceAll steps u s)
    | error e u =>
      rw [traceAll_cons_of_error h]
      exact first

/-- What a step comes to are plain steps. -/
theorem isPlain_of_mem_traceStep (step : Step) (w : World) :
    ∀ s ∈ traceStep lastCommand step w, s.IsPlain := by
  cases step with
  | branch test whenTrue whenFalse =>
    unfold traceStep
    split
    · exact isPlain_of_mem_trace whenTrue w
    · exact isPlain_of_mem_trace whenFalse w
  | link | dialog | toggle | mutate | unknown =>
    intro s hs
    rw [List.mem_singleton.mp hs]
    trivial

end

mutual

/-- To carry out what an action comes to is to carry out the action. -/
theorem performAll_trace (a : Action) (w : World) :
    performAll lastCommand (a.trace lastCommand w) w = a.perform lastCommand w := by
  cases a with
  | chain steps => exact performAll_traceAll steps w
  | single step => exact performAll_traceStep step w

/-- To carry out what steps come to is to carry out the steps. -/
theorem performAll_traceAll (steps : List Step) (w : World) :
    performAll lastCommand (traceAll lastCommand steps w) w = performAll lastCommand steps w := by
  cases steps with
  | nil => rfl
  | cons step steps =>
    have first := performAll_traceStep step w
    have alone := performAll_singleton lastCommand step
    rw [← List.singleton_append (x := step)]
    cases h : performStep lastCommand step w with
    | ok signals u =>
      rw [List.singleton_append, traceAll_cons_of_ok h, performAll_append_of_ok (first.trans h),
        performAll_traceAll steps u, ← List.singleton_append,
        performAll_append_of_ok ((congrFun alone w).trans h)]
    | error e u =>
      rw [List.singleton_append, traceAll_cons_of_error h, first, h, ← List.singleton_append,
        performAll_append_of_error ((congrFun alone w).trans h)]

/-- To carry out what a step comes to is to carry out the step. -/
theorem performAll_traceStep (step : Step) (w : World) :
    performAll lastCommand (traceStep lastCommand step w) w = performStep lastCommand step w := by
  cases step with
  | branch test whenTrue whenFalse =>
    rw [performStep_branch]
    unfold traceStep
    split
    · exact performAll_trace whenTrue w
    · exact performAll_trace whenFalse w
  | link | dialog | toggle | mutate | unknown =>
    exact congrFun (performAll_singleton lastCommand _) w

end

/-- A list of steps whose last one fails in the world that those before it leave. -/
def FailsLast (lastCommand : Option String) (steps : List Step) (w : World) (e : ActionError)
    (t : World) : Prop :=
  ∃ before leaf signals u, steps = before ++ [leaf] ∧
    performAll lastCommand before w = .ok signals u ∧ performStep lastCommand leaf u = .error e t

/-- Steps whose last one fails do so behind others that succeed. -/
theorem FailsLast.append {steps more : List Step} {w u t : World} {signals : List Signal}
    {e : ActionError} (h : FailsLast lastCommand more u e t)
    (ok : performAll lastCommand steps w = .ok signals u) :
    FailsLast lastCommand (steps ++ more) w e t := by
  obtain ⟨before, leaf, rest, v, rfl, worked, failed⟩ := h
  refine ⟨steps ++ before, leaf, signals ++ rest, v, (List.append_assoc ..).symm, ?_, failed⟩
  rw [performAll_append_of_ok ok, worked]

/-- Steps whose last one fails in what the others leave fail as it does. -/
theorem FailsLast.performAll_eq {steps : List Step} {w t : World} {e : ActionError}
    (h : FailsLast lastCommand steps w e t) : performAll lastCommand steps w = .error e t := by
  obtain ⟨before, leaf, signals, u, rfl, worked, failed⟩ := h
  rw [performAll_append_of_ok worked, performAll_singleton, failed]

mutual

/-- When an action fails, the last step that it comes to is the one that fails. -/
theorem failsLast_trace (a : Action) {w t : World} {e : ActionError}
    (failed : a.perform lastCommand w = .error e t) :
    FailsLast lastCommand (a.trace lastCommand w) w e t := by
  cases a with
  | chain steps => exact failsLast_traceAll steps failed
  | single step => exact failsLast_traceStep step failed

/-- When steps fail, the last step that they come to is the one that fails. -/
theorem failsLast_traceAll (steps : List Step) {w t : World} {e : ActionError}
    (failed : performAll lastCommand steps w = .error e t) :
    FailsLast lastCommand (traceAll lastCommand steps w) w e t := by
  cases steps with
  | nil => cases failed
  | cons step steps =>
    unfold performAll at failed
    rcases bind_eq_error_iff.mp failed with failed | ⟨signals, u, ok, failed⟩
    · rw [traceAll_cons_of_error failed]
      exact failsLast_traceStep step failed
    · rw [traceAll_cons_of_ok ok]
      have rest := failsLast_traceAll steps (error_of_bind_pure failed)
      exact rest.append ((performAll_traceStep step w).trans ok)

/-- When a step fails, the last step that it comes to is the one that fails. -/
theorem failsLast_traceStep (step : Step) {w t : World} {e : ActionError}
    (failed : performStep lastCommand step w = .error e t) :
    FailsLast lastCommand (traceStep lastCommand step w) w e t := by
  cases step with
  | branch test whenTrue whenFalse =>
    rw [performStep_branch] at failed
    unfold traceStep
    by_cases h : test.holds w.store = true
    · rw [if_pos h] at failed ⊢
      exact failsLast_trace whenTrue failed
    · rw [if_neg h] at failed ⊢
      exact failsLast_trace whenFalse failed
  | link | dialog | toggle | mutate | unknown => exact ⟨[], _, [], w, rfl, rfl, failed⟩

end

end Trace

/-- The steps of a chain are carried out in order, each from the world that those before it have
left and none behind one that fails. A branch may be replaced by the steps that it chooses in the
world it is come to, and every action by the plain steps that it comes to. An action fails exactly
when the last of these fails, with its error and in the world that it leaves, and then there are no
signals. -/
theorem perform_in_order (lastCommand : Option String) :
    (∀ steps more, (chain (steps ++ more)).perform lastCommand = do
      let first ← (chain steps).perform lastCommand
      let rest ← (chain more).perform lastCommand
      return first ++ rest) ∧
    (∀ steps more w e t, (chain steps).perform lastCommand w = .error e t →
      (chain (steps ++ more)).perform lastCommand w = .error e t) ∧
    (∀ steps test whenTrue whenFalse more w signals u,
      (chain steps).perform lastCommand w = .ok signals u →
      (chain (steps ++ .branch test whenTrue whenFalse :: more)).perform lastCommand w =
        (chain (steps ++ (if test.holds u.store then whenTrue else whenFalse).steps ++
          more)).perform lastCommand w) ∧
    (∀ (a : Action) w, (∀ step ∈ a.trace lastCommand w, step.IsPlain) ∧
      (chain (a.trace lastCommand w)).perform lastCommand w = a.perform lastCommand w) ∧
    ∀ (a : Action) w e t, a.perform lastCommand w = .error e t ↔
      ∃ before leaf signals u, a.trace lastCommand w = before ++ [leaf] ∧
        (chain before).perform lastCommand w = .ok signals u ∧
        (single leaf).perform lastCommand u = .error e t := by
  refine ⟨performAll_append lastCommand, fun steps more w e t failed ↦ ?_,
    fun steps test whenTrue whenFalse more w signals u ok ↦ ?_,
    fun a w ↦ ⟨isPlain_of_mem_trace a w, performAll_trace a w⟩, fun a w e t ↦ ⟨?_, ?_⟩⟩
  · exact performAll_append_of_error failed more
  · have chosen := performAll_branch lastCommand test whenTrue whenFalse more u
    rw [List.append_assoc]
    change performAll lastCommand _ w = performAll lastCommand _ w
    rw [performAll_append_of_ok ok, performAll_append_of_ok ok, chosen]
  · exact failsLast_trace a
  · intro failed
    have failed : FailsLast lastCommand (a.trace lastCommand w) w e t := failed
    rw [← performAll_trace, failed.performAll_eq]

-- a step that cannot be carried out is the last one that an action comes to
example (w : World) :
    (chain [.link "hall" false, .unknown, .link "vault" false]).trace none w =
      [.link "hall" false, .unknown] := rfl

end Action

end Teletype
