/-!
# Programs that keep an invariant

What is shown here of programs on a state that may fail: an invariant of the state outlives them
whether they succeed or not, what they give satisfies one condition, and what they fail with
another. Each way to put programs together has one rule.
-/

namespace Teletype

variable {ε σ α β : Type} {inv : σ → Prop} {fails : ε → Prop}

/-- A program that first reads the state goes on with it. -/
theorem get_bind (f : σ → EStateM ε σ α) (s : σ) : (get >>= f) s = f s s := rfl

/-- A program behind one that succeeds goes on from the state left to it. -/
theorem bind_of_ok {x : EStateM ε σ α} {s t : σ} {a : α} (h : x s = .ok a t)
    (f : α → EStateM ε σ β) : (x >>= f) s = f a t := by
  change (match x s with | .ok a t => f a t | .error e t => .error e t) = _
  rw [h]

/-- A program behind one that fails does nothing. -/
theorem bind_of_error {x : EStateM ε σ α} {s t : σ} {e : ε} (h : x s = .error e t)
    (f : α → EStateM ε σ β) : (x >>= f) s = .error e t := by
  change (match x s with | .ok a t => f a t | .error e t => .error e t) = _
  rw [h]

/-- A program behind one does what it does behind another that does the same. -/
theorem bind_of_eq {x y : EStateM ε σ α} {s : σ} (h : x s = y s) (f : α → EStateM ε σ β) :
    (x >>= f) s = (y >>= f) s := by
  change (match x s with | .ok a t => f a t | .error e t => .error e t) = _
  rw [h]
  rfl

/-- Two programs one after another succeed when both of them do. -/
theorem bind_eq_ok_iff {x : EStateM ε σ α} {f : α → EStateM ε σ β} {s t : σ} {b : β} :
    (x >>= f) s = .ok b t ↔ ∃ a u, x s = .ok a u ∧ f a u = .ok b t := by
  change (match x s with | .ok a t => f a t | .error e t => .error e t) = _ ↔ _
  cases hx : x s <;> simp [and_assoc]

/-- Two programs one after another fail when the first one does, or else the second one. -/
theorem bind_eq_error_iff {x : EStateM ε σ α} {f : α → EStateM ε σ β} {s t : σ} {e : ε} :
    (x >>= f) s = .error e t ↔ x s = .error e t ∨ ∃ a u, x s = .ok a u ∧ f a u = .error e t := by
  change (match x s with | .ok a t => f a t | .error e t => .error e t) = _ ↔ _
  cases hx : x s <;> simp [and_assoc]

/-- A program whose result is only made into another one fails by itself. -/
theorem error_of_bind_pure {x : EStateM ε σ α} {f : α → β} {s t : σ} {e : ε}
    (h : (x >>= fun a ↦ pure (f a)) s = .error e t) : x s = .error e t := by
  rcases bind_eq_error_iff.mp h with h | ⟨_, _, -, h⟩
  · exact h
  · cases h

/-- The state that a program leaves, whether it succeeds or fails. -/
def leftBy (x : EStateM ε σ α) (s : σ) : σ :=
  match x s with
  | .ok _ t | .error _ t => t

/-- A program that succeeds leaves the state that it ends in. -/
theorem leftBy_of_ok {x : EStateM ε σ α} {s t : σ} {a : α} (h : x s = .ok a t) :
    leftBy x s = t := by
  rw [leftBy, h]

/-- A program that fails leaves the state at the failure. -/
theorem leftBy_of_error {x : EStateM ε σ α} {s t : σ} {e : ε} (h : x s = .error e t) :
    leftBy x s = t := by
  rw [leftBy, h]

/-- A program behind one that succeeds leaves what it leaves of the state left to it. -/
theorem leftBy_bind_of_ok {x : EStateM ε σ α} {s t : σ} {a : α} (h : x s = .ok a t)
    (f : α → EStateM ε σ β) : leftBy (x >>= f) s = leftBy (f a) t := by
  rw [leftBy, bind_of_ok h]
  rfl

/-- A program behind one that fails does not change what this leaves. -/
theorem leftBy_bind_of_error {x : EStateM ε σ α} {s t : σ} {e : ε} (h : x s = .error e t)
    (f : α → EStateM ε σ β) : leftBy (x >>= f) s = t := leftBy_of_error (bind_of_error h f)

/-- A program whose result is only made into another one leaves what it leaves by itself. -/
theorem leftBy_bind_pure (x : EStateM ε σ α) (f : α → β) (s : σ) :
    leftBy (x >>= fun a ↦ pure (f a)) s = leftBy x s := by
  cases h : x s with
  | ok a t =>
    rw [leftBy_of_ok h, leftBy_bind_of_ok h]
    rfl
  | error e t => rw [leftBy_of_error h, leftBy_bind_of_error h]

/-- A program keeps an invariant, gives only what satisfies one condition, and fails only with what
satisfies another. -/
def Keeps (inv : σ → Prop) (fails : ε → Prop) (gives : α → Prop) (x : EStateM ε σ α) : Prop :=
  ∀ s, inv s → match x s with
    | .ok a t => inv t ∧ gives a
    | .error e t => inv t ∧ fails e

/-- A program keeps an invariant, whatever it gives or fails with. -/
abbrev Preserves (inv : σ → Prop) (x : EStateM ε σ α) : Prop :=
  Keeps inv (fun _ ↦ True) (fun _ ↦ True) x

namespace Keeps

variable {gives : α → Prop} {next : β → Prop} {x : EStateM ε σ α}

/-- A program that keeps an invariant keeps it where it succeeds. -/
theorem of_ok (h : Keeps inv fails gives x) {s t : σ} {a : α} (hs : inv s) (hx : x s = .ok a t) :
    inv t ∧ gives a := by
  have := h s hs
  rwa [hx] at this

/-- A program that keeps an invariant keeps it where it fails. -/
theorem of_error (h : Keeps inv fails gives x) {s t : σ} {e : ε} (hs : inv s)
    (hx : x s = .error e t) : inv t ∧ fails e := by
  have := h s hs
  rwa [hx] at this

/-- A program that keeps an invariant leaves a state that satisfies it. -/
theorem leftBy (h : Keeps inv fails gives x) {s : σ} (hs : inv s) : inv (leftBy x s) := by
  cases hx : x s with
  | ok a t => exact leftBy_of_ok hx ▸ (h.of_ok hs hx).1
  | error e t => exact leftBy_of_error hx ▸ (h.of_error hs hx).1

/-- A program gives what follows from what it gives. -/
theorem weaken {later : α → Prop} (h : Keeps inv fails gives x) (follows : ∀ a, gives a → later a) :
    Keeps inv fails later x := by
  intro s hs
  have := h s hs
  cases hx : x s with
  | ok a t =>
    rw [hx] at this
    exact ⟨this.1, follows a this.2⟩
  | error e t =>
    rw [hx] at this
    exact this

/-- Programs one after another keep what each of them keeps. -/
theorem bind {f : α → EStateM ε σ β} (hx : Keeps inv fails gives x)
    (hf : ∀ a, gives a → Keeps inv fails next (f a)) : Keeps inv fails next (x >>= f) := by
  intro s hs
  change match (match x s with | .ok a t => f a t | .error e t => .error e t) with
    | .ok b t => inv t ∧ next b
    | .error e t => inv t ∧ fails e
  cases hr : x s with
  | ok a t =>
    obtain ⟨ht, ha⟩ := hx.of_ok hs hr
    exact hf a ha t ht
  | error e t => exact hx.of_error hs hr

end Keeps

section Primitive

variable {gives : α → Prop}

/-- Every program keeps what is true of all states. -/
theorem preserves_true (x : EStateM ε σ α) : Preserves (fun _ ↦ True) x := by
  intro s _
  cases x s <;> exact ⟨trivial, trivial⟩

/-- Giving a value keeps everything. -/
theorem keeps_pure {a : α} (h : gives a) : Keeps inv fails gives (pure a) :=
  fun _ hs ↦ ⟨hs, h⟩

/-- Failing keeps everything. -/
theorem keeps_throw {e : ε} (h : fails e) : Keeps inv fails gives (throw e : EStateM ε σ α) :=
  fun _ hs ↦ ⟨hs, h⟩

/-- Reading the state gives one that satisfies the invariant. -/
theorem keeps_get : Keeps inv fails inv (get : EStateM ε σ σ) := fun _ hs ↦ ⟨hs, hs⟩

/-- Changing the state keeps what the change keeps. -/
theorem keeps_modify {f : σ → σ} (h : ∀ s, inv s → inv (f s)) :
    Keeps inv fails (fun _ ↦ True) (modify f : EStateM ε σ PUnit) :=
  fun s hs ↦ ⟨h s hs, trivial⟩

end Primitive

/-- Two programs do the same wherever an invariant holds, and keep it. -/
structure Alike (inv : σ → Prop) (gives : α → Prop) (x y : EStateM ε σ α) : Prop where
  same : ∀ s, inv s → x s = y s
  keeps : Keeps inv (fun _ ↦ True) gives y

namespace Alike

variable {gives : α → Prop} {next : β → Prop} {x y : EStateM ε σ α}

/-- A program that keeps an invariant does the same as itself. -/
theorem of_keeps (h : Keeps inv (fun _ ↦ True) gives x) : Alike inv gives x x :=
  ⟨fun _ _ ↦ rfl, h⟩

/-- Programs one after another do the same as others when each of them does. -/
theorem bind {f g : α → EStateM ε σ β} (hx : Alike inv gives x y)
    (hf : ∀ a, gives a → Alike inv next (f a) (g a)) : Alike inv next (x >>= f) (y >>= g) := by
  refine ⟨fun s hs ↦ ?_, hx.keeps.bind fun a ha ↦ (hf a ha).keeps⟩
  cases hy : y s with
  | ok a t =>
    obtain ⟨ht, ha⟩ := hx.keeps.of_ok hs hy
    rw [bind_of_ok ((hx.same s hs).trans hy), bind_of_ok hy]
    exact (hf a ha).same t ht
  | error e t => rw [bind_of_error ((hx.same s hs).trans hy), bind_of_error hy]

/-- Two programs that go on with the state do the same when they do so with each state. -/
theorem get_bind {f g : σ → EStateM ε σ α} (h : ∀ s, inv s → Alike inv gives (f s) (g s)) :
    Alike inv gives (get >>= f) (get >>= g) :=
  (of_keeps keeps_get).bind h

/-- Programs that do the same go on doing the same behind a common change of the state. -/
theorem modify_bind {f : σ → σ} (h : ∀ s, inv s → inv (f s)) (hx : Alike inv gives x y) :
    Alike inv gives (modify f >>= fun _ ↦ x) (modify f >>= fun _ ↦ y) :=
  (of_keeps (keeps_modify h)).bind fun _ _ ↦ hx

end Alike

end Teletype
