import Teletype.Document.Links
import Teletype.Proofs.Keeps
import Teletype.Session.Play
/-!
# What actions keep of a world

An action changes the world by its flips of toggles and its changes of variables alone, however deep
they stand in branches. What each of these keeps is kept by the action, whether it succeeds or
fails, and holds whenever a branch asks its condition on the way.
-/

namespace Teletype

/-- Whether a step by itself keeps something of the world. The steps of a branch are left to
themselves. -/
def Step.Leaves (lastCommand : Option String) (p : World → Prop) : Step → Prop
  | .mutate target m => Preserves p (m.apply target lastCommand)
  | .toggle id => ∀ w, p w → p { w with toggles := w.toggles.flip id }
  | .link .. | .dialog _ | .branch .. | .unknown => True

/-- A change of a variable keeps what setting that variable and drawing at random keep. -/
theorem Mutation.preserves_apply {p : World → Prop} {target : String}
    (sets : ∀ w value, p w → p { w with store := w.store.set target value })
    (draws : ∀ w random, p w → p { w with random }) (m : Mutation) (lastCommand : Option String) :
    Preserves p (m.apply target lastCommand) := by
  have set (value : World → Value) : Preserves p (modify fun w ↦
      { w with store := w.store.set target (value w) } : Work PUnit) :=
    keeps_modify fun w hw ↦ sets w (value w) hw
  obtain ⟨kind, value, rule⟩ := m
  cases kind with
  | set =>
    cases value with
    | some value => exact set fun _ ↦ value
    | none =>
      cases rule with
      | none => exact set fun _ ↦ .text (lastCommand.getD "")
      | some rule =>
        have generates : Preserves p (World.generate rule) := by
          intro w hw
          unfold World.generate
          rcases Rule.generate rule w.random with ⟨_ | _, random⟩ <;>
            exact ⟨draws w random hw, trivial⟩
        exact generates.bind fun value _ ↦ set fun _ ↦ value
  | toggle => exact set fun w ↦ Store.toggled (w.store.get? target)
  | count counting =>
    have counts (amount : Float) : Preserves p (World.count counting target amount) := by
      intro w hw
      unfold World.count Store.count
      cases Store.counted counting target (counting.signed amount) (w.store.get? target) with
      | error e => exact ⟨hw, trivial⟩
      | ok value => exact ⟨sets w value hw, trivial⟩
    exact counts _
  | concatenate => exact set fun w ↦ Store.joined _ _ (w.store.get? target)
  | unsupported name => exact keeps_throw trivial

namespace Action

variable {p : World → Prop} (lastCommand : Option String)

mutual

/-- An action keeps of the world what each of its steps does, however deep they stand. -/
theorem preserves_perform (a : Action) (leaves : ∀ step ∈ a.everyStep, step.Leaves lastCommand p) :
    Preserves p (a.perform lastCommand) := by
  cases a with
  | chain steps => exact preserves_performAll steps leaves
  | single step => exact preserves_performStep step leaves

/-- Steps keep of the world what each of them does. -/
theorem preserves_performAll (steps : List Step)
    (leaves : ∀ step ∈ everyStepOfAll steps, step.Leaves lastCommand p) :
    Preserves p (performAll lastCommand steps) := by
  cases steps with
  | nil => exact keeps_pure trivial
  | cons step steps =>
    have first := preserves_performStep step fun s hs ↦ leaves s (List.mem_append_left _ hs)
    have rest := preserves_performAll steps fun s hs ↦ leaves s (List.mem_append_right _ hs)
    exact first.bind fun _ _ ↦ rest.bind fun _ _ ↦ keeps_pure trivial

/-- A step keeps of the world what it and the steps of its branches do. -/
theorem preserves_performStep (step : Step)
    (leaves : ∀ s ∈ everyStepOf step, s.Leaves lastCommand p) :
    Preserves p (performStep lastCommand step) := by
  cases step with
  | link target shift => exact keeps_pure trivial
  | dialog target => exact keeps_pure trivial
  | toggle target =>
    have flips := leaves (.toggle target) (by simp [everyStepOf])
    exact (keeps_modify flips).bind fun _ _ ↦ keeps_pure trivial
  | mutate target m =>
    have changes := leaves (.mutate target m) (by simp [everyStepOf])
    exact Keeps.bind changes fun _ _ ↦ keeps_pure trivial
  | branch test whenTrue whenFalse =>
    refine keeps_get.bind fun w _ ↦ ?_
    split
    · exact preserves_perform whenTrue fun s hs ↦ leaves s (by simp [everyStepOf, hs])
    · exact preserves_perform whenFalse fun s hs ↦ leaves s (by simp [everyStepOf, hs])
  | unknown => exact keeps_throw trivial

end

/-! ## Conditions that are asked -/

mutual

/-- The conditions that an action asks, each with the world in which it is asked. -/
def asked : Action → World → List (Condition × World)
  | chain steps, w => askedAll steps w
  | single step, w => askedStep step w

/-- The conditions that several steps ask. Each step starts from the world that the one before it
has left; behind a step that fails nothing is asked. -/
def askedAll : List Step → World → List (Condition × World)
  | [], _ => []
  | step :: steps, w =>
    askedStep step w ++
      match performStep lastCommand step w with
      | .ok _ after => askedAll steps after
      | .error _ _ => []

/-- The conditions that a step asks: that of a branch, and those of the action that it chooses. -/
def askedStep : Step → World → List (Condition × World)
  | .branch test whenTrue whenFalse, w =>
    (test, w) :: if test.holds w.store then asked whenTrue w else asked whenFalse w
  | .link .., _ | .dialog _, _ | .toggle _, _ | .mutate .., _ | .unknown, _ => []

end

mutual

/-- What each step of an action keeps holds whenever the action asks a condition. -/
theorem holds_of_mem_asked (a : Action) (leaves : ∀ step ∈ a.everyStep, step.Leaves lastCommand p)
    {w : World} (hw : p w) : ∀ question ∈ a.asked lastCommand w, p question.2 := by
  cases a with
  | chain steps => exact holds_of_mem_askedAll steps leaves hw
  | single step => exact holds_of_mem_askedStep step leaves hw

/-- What each of several steps keeps holds whenever they ask a condition. -/
theorem holds_of_mem_askedAll (steps : List Step)
    (leaves : ∀ step ∈ everyStepOfAll steps, step.Leaves lastCommand p) {w : World} (hw : p w) :
    ∀ question ∈ askedAll lastCommand steps w, p question.2 := by
  cases steps with
  | nil => exact fun _ h ↦ nomatch h
  | cons step steps =>
    have here : ∀ s ∈ everyStepOf step, s.Leaves lastCommand p :=
      fun s hs ↦ leaves s (List.mem_append_left _ hs)
    intro question asked
    rcases List.mem_append.mp asked with first | rest
    · exact holds_of_mem_askedStep step here hw question first
    · cases hp : performStep lastCommand step w with
      | error e after =>
        rw [hp] at rest
        cases rest
      | ok signals after =>
        rw [hp] at rest
        have kept := ((preserves_performStep lastCommand step here).of_ok hw hp).1
        exact holds_of_mem_askedAll steps (fun s hs ↦ leaves s (List.mem_append_right _ hs)) kept
          question rest

/-- What a step and those of its branches keep holds whenever it asks a condition. -/
theorem holds_of_mem_askedStep (step : Step)
    (leaves : ∀ s ∈ everyStepOf step, s.Leaves lastCommand p) {w : World} (hw : p w) :
    ∀ question ∈ askedStep lastCommand step w, p question.2 := by
  cases step with
  | link | dialog | toggle | mutate | unknown => exact fun _ h ↦ nomatch h
  | branch test whenTrue whenFalse =>
    intro question asked
    rcases List.mem_cons.mp asked with rfl | asked
    · exact hw
    · split at asked
      · exact holds_of_mem_asked whenTrue (fun s hs ↦ leaves s (by simp [everyStepOf, hs])) hw
          question asked
      · exact holds_of_mem_asked whenFalse (fun s hs ↦ leaves s (by simp [everyStepOf, hs])) hw
          question asked

end

end Action

/-- Changes of variables one after another keep what each of them does. -/
theorem Mutation.preserves_applyAll {p : World → Prop} {changes : List (String × Mutation)}
    (h : ∀ change ∈ changes, Preserves p (change.2.apply change.1 none)) :
    Preserves p (applyAll changes) := by
  induction changes with
  | nil => exact keeps_pure trivial
  | cons change changes ih =>
    obtain ⟨first, rest⟩ := List.forall_mem_cons.mp h
    exact first.bind fun _ _ ↦ ih rest

/-- A command keeps of the world what keeping the input and each step of its action do. -/
theorem Command.preserves_run {p : World → Prop} {c : Command} {input : String}
    (inputs : ∀ w, p w → p { w with store := w.store.set lastCommandName (.text input) })
    (leaves : ∀ step ∈ c.action.everyStep, step.Leaves (some input) p) :
    Preserves p (c.run input) :=
  (keeps_modify inputs).bind fun _ _ ↦
    (Action.preserves_perform (some input) c.action leaves).bind fun _ _ ↦ keeps_pure trivial

end Teletype
