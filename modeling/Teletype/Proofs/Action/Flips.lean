import Mathlib.Logic.Function.Iterate
import Teletype.Proofs.Action.Lasting
import Teletype.Proofs.Action.Trace
/-!
# Flips of toggles

A flip goes to the next state of one toggle and back to the first one from the last, so that how
often a toggle was flipped tells which of its states shows. An action leaves the toggles as the
flips among its steps do that are carried out, whether it succeeds or fails behind some of them.
-/

namespace Teletype

namespace ToggleSlot

/-- A flip leaves a toggle as many states as it has. -/
@[simp] theorem count_flip (slot : ToggleSlot) : slot.flip.count = slot.count := by
  unfold flip
  split <;> rfl

/-- A toggle with states goes to the next one, and from the last to the first. -/
theorem active_flip {slot : ToggleSlot} (h : 0 < slot.count) :
    slot.flip.active = (slot.active + 1) % slot.count := by
  unfold flip
  rw [if_neg (Nat.ne_of_gt h)]

/-- A toggle without states cannot be flipped. -/
theorem flip_of_count {slot : ToggleSlot} (h : slot.count = 0) : slot.flip = slot := by
  unfold flip
  rw [if_pos h]

/-- Flips leave a toggle as many states as it has. -/
@[simp] theorem count_iterate_flip (slot : ToggleSlot) (n : Nat) :
    (flip^[n] slot).count = slot.count := by
  induction n with
  | zero => rfl
  | succ n ih => rw [Function.iterate_succ_apply', count_flip, ih]

/-- Flips go round the states of a toggle. -/
theorem active_iterate_flip {slot : ToggleSlot} (h : slot.active < slot.count) (n : Nat) :
    (flip^[n] slot).active = (slot.active + n) % slot.count := by
  induction n with
  | zero => exact (Nat.mod_eq_of_lt h).symm
  | succ n ih =>
    have states : 0 < (flip^[n] slot).count := by
      rw [count_iterate_flip]
      exact Nat.zero_lt_of_lt h
    rw [Function.iterate_succ_apply', active_flip states, ih, count_iterate_flip, Nat.mod_add_mod,
      Nat.add_assoc]

/-- A toggle with states starts at one of them. -/
theorem active_ofStates_lt {states : List ToggleState} (h : states ≠ []) :
    (ofStates states).active < (ofStates states).count := by
  change (states.findIdx? ToggleState.active).getD 0 < states.length
  cases first : states.findIdx? ToggleState.active with
  | none => exact List.length_pos_iff.mpr h
  | some i => exact (List.findIdx?_eq_some_iff_findIdx_eq.mp first).1

end ToggleSlot

namespace ToggleBoard

variable {b : ToggleBoard} {id other : String}

/-- Flips toggles one after another. -/
def flipAll (b : ToggleBoard) (ids : List String) : ToggleBoard := ids.foldl flip b

/-- No flips change nothing. -/
@[simp] theorem flipAll_nil (b : ToggleBoard) : b.flipAll [] = b := rfl

/-- The first flip comes before the others. -/
theorem flipAll_cons (b : ToggleBoard) (id : String) (ids : List String) :
    b.flipAll (id :: ids) = (b.flip id).flipAll ids := rfl

/-- Flips come behind those before them. -/
theorem flipAll_append (b : ToggleBoard) (ids more : List String) :
    b.flipAll (ids ++ more) = (b.flipAll ids).flipAll more := List.foldl_append

/-- A toggle after a flip: it has gone on when it is the one that is flipped. -/
theorem getElem?_flip (b : ToggleBoard) (id other : String) :
    (b.flip id).slots[other]? =
      if id = other then b.slots[other]?.map ToggleSlot.flip else b.slots[other]? := by
  unfold flip
  by_cases same : id = other
  · subst same
    cases h : b.slots[id]? <;> simp [h]
  · cases h : b.slots[id]? <;> simp [Std.ExtTreeMap.getElem?_insert, same]

/-- A toggle after several flips: it has gone on as often as it was flipped. -/
theorem getElem?_flipAll (b : ToggleBoard) (ids : List String) (id : String) :
    (b.flipAll ids).slots[id]? = b.slots[id]?.map ToggleSlot.flip^[ids.count id] := by
  induction ids generalizing b with
  | nil => simp
  | cons first ids ih =>
    rw [flipAll_cons, ih, getElem?_flip, List.count_cons]
    by_cases same : first = id <;> simp [same]

/-- A flip of one toggle leaves the others at their states. -/
theorem active?_flip_of_ne (b : ToggleBoard) (h : id ≠ other) :
    (b.flip id).active? other = b.active? other := by
  unfold active?
  rw [getElem?_flip, if_neg h]

end ToggleBoard

/-- The toggle that a step flips. -/
def Step.flip? : Step → Option String
  | .toggle id => some id
  | .link .. | .dialog _ | .mutate .. | .branch .. | .unknown => none

/-- A change of a variable leaves the toggles. -/
theorem Mutation.preserves_toggles (board : ToggleBoard) (m : Mutation) (target : String)
    (lastCommand : Option String) :
    Preserves (fun w ↦ w.toggles = board) (m.apply target lastCommand) :=
  m.preserves_apply (fun _ _ h ↦ h) (fun _ _ h ↦ h) lastCommand

namespace Action

variable {lastCommand : Option String} {w u : World}

/-- The flips that an action carries out from a world, in order, up to a step that fails. -/
def flips (lastCommand : Option String) (a : Action) (w : World) : List String :=
  (a.trace lastCommand w).filterMap Step.flip?

variable (lastCommand) in
/-- A plain step leaves the toggles, but for the one that it flips. -/
theorem toggles_leftBy_performStep {step : Step} (h : step.IsPlain) (w : World) :
    (leftBy (performStep lastCommand step) w).toggles = w.toggles.flipAll step.flip?.toList := by
  cases step with
  | branch => exact h.elim
  | link | dialog | toggle | unknown => rfl
  | mutate target m =>
    have kept := (m.preserves_toggles w.toggles target lastCommand).leftBy rfl
    unfold performStep
    rw [leftBy_bind_pure]
    exact kept

/-- Plain steps that succeed leave the toggles as their flips do. -/
theorem toggles_of_performAll {steps : List Step} (plain : ∀ step ∈ steps, step.IsPlain)
    {signals : List Signal} (ok : performAll lastCommand steps w = .ok signals u) :
    u.toggles = w.toggles.flipAll (steps.filterMap Step.flip?) := by
  induction steps generalizing w signals with
  | nil =>
    cases ok
    rfl
  | cons step steps ih =>
    obtain ⟨here, behind⟩ := List.forall_mem_cons.mp plain
    obtain ⟨first, v, done, ok⟩ := bind_eq_ok_iff.mp ok
    obtain ⟨rest, t, ok, ended⟩ := bind_eq_ok_iff.mp ok
    cases ended
    have flipped := toggles_leftBy_performStep lastCommand here w
    rw [leftBy_of_ok done] at flipped
    have split : (step :: steps).filterMap Step.flip? =
        step.flip?.toList ++ steps.filterMap Step.flip? := by
      cases hf : step.flip? <;> simp [hf]
    rw [split, ToggleBoard.flipAll_append, ← flipped]
    exact ih behind ok

/-- An action leaves the toggles as the flips do that it carries out, also when it fails. -/
theorem toggles_leftBy_perform (a : Action) (w : World) :
    (leftBy (a.perform lastCommand) w).toggles = w.toggles.flipAll (a.flips lastCommand w) := by
  have plain : ∀ step ∈ a.trace lastCommand w, step.IsPlain := isPlain_of_mem_trace a w
  unfold flips
  cases h : a.perform lastCommand w with
  | ok signals u =>
    rw [leftBy_of_ok h]
    exact toggles_of_performAll plain ((performAll_trace a w).trans h)
  | error e t =>
    -- only the last of the plain steps fails, behind flips that are not taken back
    obtain ⟨before, leaf, signals, u, traced, worked, failed⟩ := failsLast_trace a h
    rw [traced] at plain
    obtain ⟨front, last⟩ := List.forall_mem_append.mp plain
    have flipped := toggles_leftBy_performStep lastCommand (last leaf List.mem_cons_self) u
    rw [leftBy_of_error failed, toggles_of_performAll front worked,
      ← ToggleBoard.flipAll_append] at flipped
    rw [leftBy_of_error h, traced, flipped, List.filterMap_append]
    cases hf : leaf.flip? <;> simp [hf]

end Action

end Teletype
