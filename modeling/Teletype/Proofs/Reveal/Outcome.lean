import Teletype.Proofs.Reveal.Sequence
/-!
# What becomes of a reveal

What a reveal will come to is settled by its items and the world alone: the waiting items are
measured one after another, each in the world that the ones before it left. Neither time nor
finishing an item changes this, and each of them reports just the milestones that it has passed.
-/

namespace Teletype

/-- Whether an event says that an item became active or that it was done. -/
def LifecycleEvent.isMilestone : LifecycleEvent → Bool
  | activated _ | done _ => true
  | ready _ | revealed .. => false

/-- The milestones among some events. -/
def milestones (events : List LifecycleEvent) : List LifecycleEvent :=
  events.filter LifecycleEvent.isMilestone

/-- An item without the time it has taken. -/
def ItemProgress.timeless (item : ItemProgress) : ItemProgress := { item with elapsed := .zero }

/-- An item as it is in the end, without the time it has taken. -/
def ItemProgress.complete (item : ItemProgress) : ItemProgress := item.finish.timeless

namespace ScreenRun

variable {ε σ : Type} {measure : String → EStateM ε σ Nat}

/-- The items come to certain items, certain milestones and a certain world. -/
inductive Settles (measure : String → EStateM ε σ Nat) : List ItemProgress → σ →
    List ItemProgress → List LifecycleEvent → σ → Prop
  | nil (world : σ) : Settles measure [] world [] [] world
  | ready {item : ItemProgress} {items final : List ItemProgress} {world after last : σ}
    {length : Nat} {events : List LifecycleEvent} (state_eq : item.state = .ready)
    (measured : measure item.id world = .ok length after)
    (rest : Settles measure items after final events last) :
    Settles measure (item :: items) world ({ item with length }.complete :: final)
      (.activated item.id :: .done item.id :: events) last
  | active {item : ItemProgress} {items final : List ItemProgress} {world last : σ}
    {events : List LifecycleEvent} (state_eq : item.state = .active)
    (rest : Settles measure items world final events last) :
    Settles measure (item :: items) world (item.complete :: final) (.done item.id :: events) last
  | done {item : ItemProgress} {items final : List ItemProgress} {world last : σ}
    {events : List LifecycleEvent} (state_eq : item.state = .done)
    (rest : Settles measure items world final events last) :
    Settles measure (item :: items) world (item.complete :: final) events last

namespace Settles

variable {item other : ItemProgress} {items final final' : List ItemProgress}
  {world last last' : σ} {events events' : List LifecycleEvent}

private theorem exists_of_ready (h : Settles measure (item :: items) world final events last)
    (state_eq : item.state = .ready) :
    ∃ length after rest later, measure item.id world = .ok length after ∧
      final = { item with length }.complete :: rest ∧
      events = .activated item.id :: .done item.id :: later ∧
      Settles measure items after rest later last := by
  cases h with
  | ready _ measured rest => exact ⟨_, _, _, _, measured, rfl, rfl, rest⟩
  | active h _ | done h _ => rw [state_eq] at h; cases h

private theorem exists_of_active (h : Settles measure (item :: items) world final events last)
    (state_eq : item.state = .active) :
    ∃ rest later, final = item.complete :: rest ∧ events = .done item.id :: later ∧
      Settles measure items world rest later last := by
  cases h with
  | active _ rest => exact ⟨_, _, rfl, rfl, rest⟩
  | ready h _ _ | done h _ => rw [state_eq] at h; cases h

private theorem exists_of_done (h : Settles measure (item :: items) world final events last)
    (state_eq : item.state = .done) :
    ∃ rest, final = item.complete :: rest ∧ Settles measure items world rest events last := by
  cases h with
  | done _ rest => exact ⟨_, rfl, rest⟩
  | ready h _ _ | active h _ => rw [state_eq] at h; cases h

/-- Items come to one end only. -/
theorem unique (h : Settles measure items world final events last)
    (h' : Settles measure items world final' events' last') :
    final = final' ∧ events = events' ∧ last = last' := by
  induction h generalizing final' events' with
  | nil world =>
    cases h'
    exact ⟨rfl, rfl, rfl⟩
  | ready state_eq measured rest ih =>
    obtain ⟨length, after, _, _, measured', rfl, rfl, rest'⟩ := h'.exists_of_ready state_eq
    rw [measured] at measured'
    cases measured'
    obtain ⟨rfl, rfl, rfl⟩ := ih rest'
    exact ⟨rfl, rfl, rfl⟩
  | active state_eq rest ih =>
    obtain ⟨_, _, rfl, rfl, rest'⟩ := h'.exists_of_active state_eq
    obtain ⟨rfl, rfl, rfl⟩ := ih rest'
    exact ⟨rfl, rfl, rfl⟩
  | done state_eq rest ih =>
    obtain ⟨_, rfl, rest'⟩ := h'.exists_of_done state_eq
    obtain ⟨rfl, rfl, rfl⟩ := ih rest'
    exact ⟨rfl, rfl, rfl⟩

/-- Items that are all done have come to their end. -/
theorem of_done (h : ∀ item ∈ items, item.state = .done) (world : σ) :
    Settles measure items world (items.map ItemProgress.complete) [] world := by
  induction items with
  | nil => exact .nil world
  | cons item items ih =>
    obtain ⟨first, rest⟩ := List.forall_mem_cons.mp h
    exact .done first (ih rest)

end Settles

private theorem complete_activate (item : ItemProgress) (length : Nat) :
    (item.activate length).complete = { item with length }.complete := by
  unfold ItemProgress.activate
  split <;> rfl

private theorem complete_tick (item : ItemProgress) (elapsed : Duration) :
    (item.tick elapsed).complete = item.complete := rfl

private theorem complete_finish (item : ItemProgress) : item.finish.complete = item.complete := rfl

/-- Milestones of two lists of events come one after another. -/
theorem milestones_append (events more : List LifecycleEvent) :
    milestones (events ++ more) = milestones events ++ milestones more := List.filter_append _ _

private theorem milestones_activationEvents_of_instant {item : ItemProgress} {length : Nat}
    (h : item.isInstant length = true) :
    milestones (item.activationEvents length) = [.activated item.id, .done item.id] := by
  unfold ItemProgress.activationEvents
  rw [if_pos h]
  split <;> rfl

private theorem milestones_activationEvents_of_slow {item : ItemProgress} {length : Nat}
    (h : item.isInstant length = false) :
    milestones (item.activationEvents length) = [.activated item.id] := by
  unfold ItemProgress.activationEvents
  rw [h]
  rfl

/-- A passage that succeeds does not change what becomes of the items, and reports the milestones
that it passes. -/
theorem Settles.of_pass {items final : List ItemProgress} {world last : σ}
    {events later : List LifecycleEvent}
    (known : ∀ item ∈ items, item.state = .ready ∨ item.state = .done)
    (ok : (pass measure items world).outcome = .ok events)
    (h : Settles measure (pass measure items world).items (pass measure items world).world final
      later last) :
    Settles measure items world final (milestones events ++ later) last := by
  -- an item that was active already would have to end before the events of the passage
  induction items generalizing world events final later with
  | nil =>
    cases ok
    exact h
  | cons item items ih =>
    obtain ⟨hstate, hk⟩ := List.forall_mem_cons.mp known
    rcases hstate with hr | hd
    · cases hm : measure item.id world with
      | error fault after =>
        rw [pass_cons_of_error measure hr hm] at ok
        cases ok
      | ok length after =>
        cases hi : item.isInstant length with
        | false =>
          rw [pass_cons_of_slow measure hr hm hi] at ok h
          cases ok
          have ha : (item.activate length).state = .active := by
            simp [ItemProgress.activate, hi]
          obtain ⟨rest, more, rfl, rfl, hrest⟩ := h.exists_of_active ha
          rw [milestones_activationEvents_of_slow hi, complete_activate,
            ItemProgress.id_activate]
          exact .ready hr hm hrest
        | true =>
          rw [pass_cons_of_instant measure hr hm hi] at ok h
          obtain ⟨behind, hbehind, rfl⟩ := Passage.exists_of_outcome_after ok
          have hd : (item.activate length).state = .done := by
            simp [ItemProgress.activate, hi]
          obtain ⟨rest, rfl, hrest⟩ := h.exists_of_done hd
          rw [milestones_append, milestones_activationEvents_of_instant hi, complete_activate]
          exact .ready hr hm (ih hk hbehind hrest)
    · rw [pass_cons_of_not_ready measure (by simp [hd])] at ok h
      obtain ⟨behind, hbehind, rfl⟩ := Passage.exists_of_outcome_after ok
      obtain ⟨rest, rfl, hrest⟩ := h.exists_of_done hd
      exact .done hd (ih hk hbehind hrest)

section Active

variable {entries : List RevealEntry} {items : List ItemProgress} {active : Option Nat}
  {place : Nat} {item other : ItemProgress} {world last : σ} {final : List ItemProgress}
  {later : List LifecycleEvent}

/-- When the active item is done, what becomes of a reveal is the same but for the milestone that
has been passed. -/
theorem Settles.of_set_done (h : Staged entries items active) (ha : active = some place)
    (hi : items[place]? = some item) (same : other.complete = item.complete)
    (hd : other.state = .done) (settled : Settles measure (items.set place other) world final later
      last) : Settles measure items world final (.done item.id :: later) last := by
  induction h generalizing place final with
  | waiting => cases ha
  | revealing entries current =>
    cases ha
    cases hi
    obtain ⟨rest, rfl, hrest⟩ := settled.exists_of_done hd
    rw [same]
    exact .active current.state_eq hrest
  | finished first rest ih =>
    obtain ⟨inner, hinner, rfl⟩ := Option.map_eq_some_iff.mp ha
    obtain ⟨tail, rfl, htail⟩ := settled.exists_of_done first.state_eq
    exact .done first.state_eq (ih hinner hi htail)

/-- While the active item goes on, what becomes of a reveal is the same. -/
theorem Settles.of_set_active (h : Staged entries items active) (ha : active = some place)
    (hi : items[place]? = some item) (same : other.complete = item.complete)
    (hs : other.state = .active) (settled : Settles measure (items.set place other) world final
      later last) : Settles measure items world final later last := by
  induction h generalizing place final with
  | waiting => cases ha
  | revealing entries current =>
    cases ha
    cases hi
    obtain ⟨rest, more, rfl, rfl, hrest⟩ := settled.exists_of_active hs
    have hid : other.id = item.id := by
      have := congrArg ItemProgress.id same
      exact this
    rw [same, hid]
    exact .active current.state_eq hrest
  | finished first rest ih =>
    obtain ⟨inner, hinner, rfl⟩ := Option.map_eq_some_iff.mp ha
    obtain ⟨tail, rfl, htail⟩ := settled.exists_of_done first.state_eq
    exact .done first.state_eq (ih hinner hi htail)

end Active

/-- A reveal goes on to a later one, with certain events, when both come to the same end and the
events have the milestones in between. -/
structure GoesOn (measure : String → EStateM ε σ Nat) (entries : List RevealEntry)
    (run : ScreenRun) (world : σ) (events : List LifecycleEvent) (later : ScreenRun)
    (after : σ) : Prop where
  screen_eq : later.screen = run.screen
  staged : Staged entries later.items later.active
  settles : ∀ {final : List ItemProgress} {rest : List LifecycleEvent} {last : σ},
    Settles measure later.items after final rest last →
      Settles measure run.items world final (milestones events ++ rest) last

variable {entries : List RevealEntry} {run : ScreenRun}

/-- A reveal goes on to itself. -/
theorem GoesOn.refl (h : Staged entries run.items run.active) (world : σ) :
    GoesOn measure entries run world [] run world :=
  ⟨rfl, h, id⟩

/-- A reveal that goes on twice goes on with the events of both. -/
theorem GoesOn.trans {middle later : ScreenRun} {world between after : σ}
    {events more : List LifecycleEvent}
    (h : GoesOn measure entries run world events middle between)
    (h' : GoesOn measure entries middle between more later after) :
    GoesOn measure entries run world (events ++ more) later after := by
  refine ⟨h'.screen_eq.trans h.screen_eq, h'.staged, fun settled ↦ ?_⟩
  rw [milestones_append, List.append_assoc]
  exact h.settles (h'.settles settled)

variable (h : Staged entries run.items run.active)

include h

/-- An advance that succeeds goes on with a reveal. -/
theorem goesOn_advance {world : σ} {events : List LifecycleEvent}
    (ok : (run.advance measure world).1 = .ok events) :
    GoesOn measure entries run world events (run.advance measure world).2.1
      (run.advance measure world).2.2 := by
  refine ⟨screen_advance measure run world, staged_step h (.advance measure world), ?_⟩
  intro final rest last settled
  cases ha : run.active with
  | some place =>
    rw [advance_of_active measure ha] at ok settled
    cases ok
    exact settled
  | none =>
    rw [advance_of_idle measure ha] at ok settled
    exact Settles.of_pass (h.ready_or_done ha) ok settled

/-- Time goes on with a reveal. -/
theorem goesOn_tick (world : σ) (elapsed : Duration) :
    GoesOn measure entries run world (run.tick elapsed).2 (run.tick elapsed).1 world := by
  cases ha : run.active with
  | none =>
    rw [tick_of_idle ha]
    exact .refl h world
  | some place =>
    have later : Staged entries (run.tick elapsed).1.items (run.tick elapsed).1.active :=
      staged_step h (.tick elapsed)
    obtain ⟨_, item, hi, current, -⟩ := h.exists_revealing ha
    have same := complete_tick item elapsed
    rw [tick_of_active ha hi] at later ⊢
    by_cases hd : (item.tick elapsed).state = .done
    · rw [if_pos hd] at later ⊢
      exact ⟨rfl, later, Settles.of_set_done h ha hi same hd⟩
    · rw [if_neg hd] at later ⊢
      have hs := (current.revealing_tick hd).state_eq
      exact ⟨rfl, later, Settles.of_set_active h ha hi same hs⟩

/-- Finishing an item goes on with a reveal. -/
theorem goesOn_finishActive (world : σ) :
    GoesOn measure entries run world run.finishActive.2 run.finishActive.1 world := by
  cases ha : run.active with
  | none =>
    rw [finishActive_of_idle ha]
    exact .refl h world
  | some place =>
    have later : Staged entries run.finishActive.1.items run.finishActive.1.active :=
      staged_step h .finish
    obtain ⟨_, item, hi, -⟩ := h.exists_revealing ha
    rw [finishActive_of_active ha hi] at later ⊢
    exact ⟨rfl, later, Settles.of_set_done h ha hi (complete_finish item) rfl⟩

omit h

private theorem finish_of_done {item : ItemProgress} (hs : item.state = .done)
    (hr : item.revealed = item.length) : item.finish = item := by
  obtain ⟨id, state, revealed, length, speed, elapsed⟩ := item
  cases hs
  cases hr
  rfl

/-- In a staged reveal items that are done are as they are in the end. -/
theorem Staged.complete_eq_timeless {items : List ItemProgress} {active : Option Nat}
    (h : Staged entries items active) (done : ∀ item ∈ items, item.state = .done) :
    items.map ItemProgress.complete = items.map ItemProgress.timeless := by
  refine List.map_congr_left fun item hm ↦ ?_
  have hs := done item hm
  have hr : item.revealed = item.length := by
    have := h.consistent item hm
    rwa [ItemProgress.Consistent, hs] at this
  rw [ItemProgress.complete, finish_of_done hs hr]

end ScreenRun

end Teletype
