import Teletype.Command.Dispatch
import Teletype.Document.Basic
import Teletype.Proofs.Keeps
/-!
# The command that an input runs

The command that is chosen for an input at a prompt is one of the prompt or, where the prompt allows
it, one of the host. Choosing changes only what is kept of patterns.
-/

namespace Teletype

/-- The prompt of a screen is one of its items. -/
theorem Screen.exists_of_prompt? {screen : Screen} {p : Prompt} (h : screen.prompt? = some p) :
    ∃ item ∈ screen.items, item.content = .prompt p := by
  obtain ⟨item, hm, hi⟩ := List.exists_of_findSome?_eq_some h
  refine ⟨item, hm, ?_⟩
  unfold Content.prompt? at hi
  split at hi
  · next hc =>
    cases hi
    exact hc
  · cases hi

/-- The command that an input answers to is one of those that were asked for. -/
theorem PatternCache.mem_of_find? {cache : PatternCache} {input : String} {commands : List Command}
    {c : Command} (h : (cache.find? input commands).1 = some c) : c ∈ commands := by
  induction commands generalizing cache with
  | nil => cases h
  | cons first commands ih =>
    unfold PatternCache.find? at h
    rcases cache.matcher first with ⟨m, after⟩
    simp only at h
    split at h
    · cases h
      exact List.mem_cons_self
    · exact List.mem_cons_of_mem first (ih h)

namespace Dispatcher

/-- Asking for commands leaves those of the host. -/
@[simp]
theorem hostCommands_find? (d : Dispatcher) (commands : List Command) (input : String) :
    (d.find? commands input).2.hostCommands = d.hostCommands := rfl

/-- The command that is chosen is one of the prompt, or one of the host where that is allowed. -/
theorem mem_of_choose {d : Dispatcher} {p : Prompt} {input : String} {c : Command}
    (h : (d.choose p input).1 = some c) :
    c ∈ p.commands ∨ p.allowMetaCommands = true ∧ c ∈ d.hostCommands := by
  unfold choose at h
  split at h
  · next allowed =>
    split at h
    · next found after hf =>
      cases h
      have hc : (d.find? d.hostCommands input).1 = some c := by rw [hf]
      exact .inr ⟨allowed, PatternCache.mem_of_find? hc⟩
    · exact .inl (PatternCache.mem_of_find? h)
  · exact .inl (PatternCache.mem_of_find? h)

/-- Choosing a command leaves those of the host. -/
@[simp]
theorem hostCommands_choose (d : Dispatcher) (p : Prompt) (input : String) :
    (d.choose p input).2.hostCommands = d.hostCommands := by
  have kept := hostCommands_find? d d.hostCommands input
  unfold choose
  split
  · split
    · next hf => rw [hf] at kept; exact kept
    · next hf => rw [hf] at kept; exact kept
  · rfl

/-- What is dispatched is the command that is chosen, if there is one. -/
theorem dispatch_eq (d : Dispatcher) (p : Prompt) (input : String) (w : World) :
    d.dispatch p input w =
      (match (d.choose p input).1 with
      | some c => c.run input w
      | none => .ok .unhandled w, (d.choose p input).2) := by
  unfold dispatch
  rcases d.choose p input with ⟨_ | c, after⟩ <;> rfl

end Dispatcher

/-- A command keeps the input and then carries out its action with it. -/
theorem Command.run_eq (c : Command) (input : String) (w : World) :
    c.run input w =
      match c.action.perform (some input)
        { w with store := w.store.set lastCommandName (.text input) } with
      | .ok signals t => .ok ⟨true, signals⟩ t
      | .error e t => .error e t := by
  change (c.action.perform (some input) >>= fun signals ↦
    (pure ⟨true, signals⟩ : Work DispatchOutcome))
      { w with store := w.store.set lastCommandName (.text input) } = _
  cases h : c.action.perform (some input)
      { w with store := w.store.set lastCommandName (.text input) } with
  | ok signals t => exact bind_of_ok h _
  | error e t => exact bind_of_error h _

end Teletype
