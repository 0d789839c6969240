import Teletype.Proofs.Reveal.Invariant
/-!
# What the events of a reveal tell

A host that hears of every event can keep an account of how far each item has come. As long as the
ids of the items are all different, the events of an operation that succeeds bring the account of
the items before it to that of the items after it. An operation that fails may have moved items too,
and of that there is no event.
-/

namespace Teletype

/-- What a host knows of how far items have come. -/
abbrev Account := Std.ExtTreeMap String LoadState

/-- The item that an event moves and how far it has come then. Showing more of an item does not move
it. -/
def LifecycleEvent.move? : LifecycleEvent → Option (String × LoadState)
  | ready id => some (id, .ready)
  | activated id => some (id, .active)
  | revealed _ _ => none
  | done id => some (id, .done)

/-- Whether all that some events move is among some ids. -/
def LifecycleEvent.MoveOnly (ids : List String) (events : List LifecycleEvent) : Prop :=
  ∀ e ∈ events, ∀ id state, e.move? = some (id, state) → id ∈ ids

open LifecycleEvent (MoveOnly)

namespace Account

/-- The account of a host that has heard of an event. -/
def hear (account : Account) (e : LifecycleEvent) : Account :=
  match e.move? with
  | some (id, state) => account.insert id state
  | none => account

/-- The account of a host that has heard of several events. -/
def hearAll (account : Account) (events : List LifecycleEvent) : Account :=
  events.foldl hear account

/-- Whether an account tells of every item how far it has come. -/
def Tells (account : Account) (items : List ItemProgress) : Prop :=
  ∀ item ∈ items, account[item.id]? = some item.state

/-- Hearing of events and then of more is hearing of them all. -/
theorem hearAll_append (account : Account) (events more : List LifecycleEvent) :
    account.hearAll (events ++ more) = (account.hearAll events).hearAll more :=
  List.foldl_append

/-- What an account says of an item after an event. -/
theorem getElem?_hear (account : Account) (e : LifecycleEvent) (id : String) :
    (account.hear e)[id]? =
      match e.move? with
      | some (moved, state) => if moved = id then some state else account[id]?
      | none => account[id]? := by
  unfold hear
  cases e.move? with
  | none => rfl
  | some move => simp [Std.ExtTreeMap.getElem?_insert]

/-- What an account says of an item stays when no event moves it. -/
theorem getElem?_hearAll_of_not_mem {events : List LifecycleEvent} {ids : List String}
    (moves : MoveOnly ids events) {id : String} (h : id ∉ ids) (account : Account) :
    (account.hearAll events)[id]? = account[id]? := by
  induction events generalizing account with
  | nil => rfl
  | cons e events ih =>
    obtain ⟨first, rest⟩ := List.forall_mem_cons.mp moves
    have same : (account.hear e)[id]? = account[id]? := by
      rw [getElem?_hear]
      split
      · next moved state hm =>
        refine if_neg ?_
        rintro rfl
        exact h (first moved state hm)
      · rfl
    exact (ih rest (account.hear e)).trans same

end Account

namespace RevealEntry

/-- What happens to an item when its screen starts moves no other item. -/
theorem moveOnly_events (e : RevealEntry) : MoveOnly [e.id] e.events := by
  cases he : e.onLoad <;> simp [MoveOnly, events, he, LifecycleEvent.move?]

/-- What happens to an item when its screen starts tells how far it has come. -/
theorem getElem?_hearAll_events (e : RevealEntry) (account : Account) :
    (account.hearAll e.events)[e.id]? = some e.progress.state := by
  cases he : e.onLoad <;>
    simp [events, progress, he, Account.hearAll, Account.getElem?_hear, LifecycleEvent.move?]

end RevealEntry

/-- Items are changed and events tell of it: they say how far every item has come that they move,
and they move nothing else. -/
structure Reports (items : List ItemProgress) (events : List LifecycleEvent)
    (later : List ItemProgress) : Prop where
  ids_eq : later.map ItemProgress.id = items.map ItemProgress.id
  moveOnly : MoveOnly (items.map ItemProgress.id) events
  tells : (items.map ItemProgress.id).Nodup → ∀ account : Account, account.Tells items →
    (account.hearAll events).Tells later

namespace Reports

variable {item other : ItemProgress} {items middle later : List ItemProgress}
  {events more : List LifecycleEvent}

/-- Where nothing happens there is nothing to tell. -/
theorem refl (items : List ItemProgress) : Reports items [] items :=
  ⟨rfl, List.forall_mem_nil _, fun _ _ told ↦ told⟩

/-- What two stretches tell together is told of both. -/
theorem trans (h : Reports items events middle) (h' : Reports middle more later) :
    Reports items (events ++ more) later := by
  constructor
  case ids_eq => exact h'.ids_eq.trans h.ids_eq
  case moveOnly =>
    refine List.forall_mem_append.mpr ⟨h.moveOnly, ?_⟩
    rw [← h.ids_eq]
    exact h'.moveOnly
  case tells =>
    intro distinct account told
    rw [Account.hearAll_append]
    exact h'.tells (h.ids_eq ▸ distinct) _ (h.tells distinct account told)

/-- An item that stays as it is may stand in front. -/
theorem cons (item : ItemProgress) (h : Reports items events later) :
    Reports (item :: items) events (item :: later) := by
  constructor
  case ids_eq => rw [List.map_cons, List.map_cons, h.ids_eq]
  case moveOnly => exact fun e hm id state hs ↦ List.mem_cons_of_mem _ (h.moveOnly e hm id state hs)
  case tells =>
    intro distinct account told
    rw [List.map_cons, List.nodup_cons] at distinct
    obtain ⟨first, rest⟩ := List.forall_mem_cons.mp told
    refine List.forall_mem_cons.mpr ⟨?_, h.tells distinct.2 account rest⟩
    rw [Account.getElem?_hearAll_of_not_mem h.moveOnly distinct.1]
    exact first

/-- The first item is changed, and events that move nothing else tell of it. -/
theorem head (same : other.id = item.id) (own : MoveOnly [item.id] events)
    (told : ∀ account : Account, account[item.id]? = some item.state →
      (account.hearAll events)[item.id]? = some other.state) :
    Reports (item :: items) events (other :: items) := by
  constructor
  case ids_eq => rw [List.map_cons, List.map_cons, same]
  case moveOnly =>
    intro e hm id state hs
    exact List.mem_cons.mpr (.inl (List.mem_singleton.mp (own e hm id state hs)))
  case tells =>
    intro distinct account known
    rw [List.map_cons, List.nodup_cons] at distinct
    obtain ⟨first, rest⟩ := List.forall_mem_cons.mp known
    refine List.forall_mem_cons.mpr ⟨?_, fun behind hm ↦ ?_⟩
    · rw [same]
      exact told account first
    · have apart : behind.id ∉ [item.id] := by
        intro hs
        rw [List.mem_singleton] at hs
        exact distinct.1 (hs ▸ List.mem_map_of_mem hm)
      rw [Account.getElem?_hearAll_of_not_mem own apart]
      exact rest behind hm

/-- The item at a place is changed, and events that move nothing else tell of it. -/
theorem set {place : Nat} (hi : items[place]? = some item) (same : other.id = item.id)
    (own : MoveOnly [item.id] events)
    (told : ∀ account : Account, account[item.id]? = some item.state →
      (account.hearAll events)[item.id]? = some other.state) :
    Reports items events (items.set place other) := by
  induction items generalizing place with
  | nil => cases hi
  | cons first items ih =>
    cases place with
    | zero =>
      cases hi
      exact head same own told
    | succ place => exact (ih hi).cons first

end Reports

namespace ItemProgress

/-- What happens to an item that becomes active moves no other item. -/
theorem moveOnly_activationEvents (item : ItemProgress) (length : Nat) :
    MoveOnly [item.id] (item.activationEvents length) := by
  unfold activationEvents
  split
  · split <;> simp [MoveOnly, LifecycleEvent.move?]
  · simp [MoveOnly, LifecycleEvent.move?]

/-- What happens to an item that becomes active tells how far it has come. -/
theorem getElem?_hearAll_activationEvents (item : ItemProgress) (length : Nat)
    (account : Account) :
    (account.hearAll (item.activationEvents length))[item.id]? =
      some (item.activate length).state := by
  unfold activationEvents activate
  split
  · split <;> simp [Account.hearAll, Account.getElem?_hear, LifecycleEvent.move?]
  · simp [Account.hearAll, Account.getElem?_hear, LifecycleEvent.move?]

/-- An item that becomes active in front of others is told of. -/
theorem reports_activate (item : ItemProgress) (length : Nat) (items : List ItemProgress) :
    Reports (item :: items) (item.activationEvents length) (item.activate length :: items) :=
  .head (item.id_activate length) (item.moveOnly_activationEvents length)
    fun account _ ↦ item.getElem?_hearAll_activationEvents length account

end ItemProgress

namespace ScreenRun

/-- What happens when a screen starts moves only the items of the screen. -/
theorem moveOnly_startEvents (entries : List RevealEntry) :
    MoveOnly (entries.map RevealEntry.id) (startEvents entries) := by
  intro event hm id state hs
  obtain ⟨e, he, hm⟩ := List.mem_flatMap.mp hm
  rw [List.mem_singleton.mp (e.moveOnly_events event hm id state hs)]
  exact List.mem_map_of_mem he

/-- What happens when a screen starts tells how far every item has come, whatever the host knew
before. -/
theorem tells_startEvents {entries : List RevealEntry}
    (distinct : (entries.map RevealEntry.id).Nodup) (account : Account) :
    (account.hearAll (startEvents entries)).Tells (entries.map RevealEntry.progress) := by
  induction entries generalizing account with
  | nil => exact List.forall_mem_nil _
  | cons e entries ih =>
    rw [List.map_cons, List.nodup_cons] at distinct
    rw [startEvents, List.flatMap_cons, Account.hearAll_append]
    refine List.forall_mem_cons.mpr ⟨?_, ih distinct.2 _⟩
    exact (Account.getElem?_hearAll_of_not_mem (moveOnly_startEvents entries) distinct.1 _).trans
      (e.getElem?_hearAll_events account)

/-- When the ids of items are all different, what a reveal says of an id is how far its item has
come. -/
theorem state?_of_mem {run : ScreenRun} (distinct : (run.items.map ItemProgress.id).Nodup)
    {item : ItemProgress} (hm : item ∈ run.items) : run.state? item.id = some item.state := by
  have first : run.item? item.id = some item := by
    unfold item?
    generalize run.items = items at distinct hm
    induction items with
    | nil => cases hm
    | cons other items ih =>
      rw [List.map_cons, List.nodup_cons] at distinct
      rcases List.mem_cons.mp hm with rfl | hm
      · simp
      · have apart : other.id ≠ item.id := fun same ↦
          distinct.1 (same ▸ List.mem_map_of_mem hm)
        rw [List.find?_cons_of_neg (by simpa using apart)]
        exact ih distinct.2 hm
  rw [state?, first, Option.map_some]

/-- An account tells how far items have come when it says of every id what the reveal says of it. -/
theorem tells_iff {run : ScreenRun} (distinct : (run.items.map ItemProgress.id).Nodup)
    (account : Account) :
    account.Tells run.items ↔
      ∀ id ∈ run.items.map ItemProgress.id, account[id]? = run.state? id := by
  rw [List.forall_mem_map]
  exact forall₂_congr fun item hm ↦ by rw [state?_of_mem distinct hm]

/-- A passage that succeeds tells all that it does. -/
theorem reports_pass {ε σ : Type} (measure : String → EStateM ε σ Nat) {items : List ItemProgress}
    {world : σ} {events : List LifecycleEvent}
    (ok : (pass measure items world).outcome = .ok events) :
    Reports items events (pass measure items world).items := by
  induction items generalizing world events with
  | nil =>
    cases ok
    exact .refl []
  | cons item items ih =>
    by_cases hr : item.state = .ready
    · cases hm : measure item.id world with
      | error fault after =>
        rw [pass_cons_of_error measure hr hm] at ok
        cases ok
      | ok length after =>
        cases hi : item.isInstant length with
        | true =>
          rw [pass_cons_of_instant measure hr hm hi] at ok ⊢
          obtain ⟨rest, hrest, rfl⟩ := Passage.exists_of_outcome_after ok
          exact (item.reports_activate length items).trans ((ih hrest).cons _)
        | false =>
          rw [pass_cons_of_slow measure hr hm hi] at ok ⊢
          cases ok
          exact item.reports_activate length items
    · rw [pass_cons_of_not_ready measure hr] at ok ⊢
      obtain ⟨rest, hrest, rfl⟩ := Passage.exists_of_outcome_after ok
      exact (ih hrest).cons item

/-- An advance that succeeds tells all that it does. -/
theorem reports_advance {ε σ : Type} (measure : String → EStateM ε σ Nat) (run : ScreenRun)
    (world : σ) {events : List LifecycleEvent} (ok : (run.advance measure world).1 = .ok events) :
    Reports run.items events (run.advance measure world).2.1.items := by
  cases ha : run.active with
  | some place =>
    rw [advance_of_active measure ha] at ok ⊢
    cases ok
    exact .refl run.items
  | none =>
    rw [advance_of_idle measure ha] at ok ⊢
    exact reports_pass measure ok

/-- Time tells all that it does. -/
theorem reports_tick (run : ScreenRun) (elapsed : Duration) :
    Reports run.items (run.tick elapsed).2 (run.tick elapsed).1.items := by
  cases ha : run.active with
  | none => simpa only [tick_of_idle ha] using .refl run.items
  | some place =>
    cases hi : run.items[place]? with
    | none => simpa [tick, active?, ha, hi] using .refl run.items
    | some item =>
      rw [tick_of_active ha hi]
      split
      · next hd =>
        refine .set hi rfl (by simp [MoveOnly, LifecycleEvent.move?]) fun account _ ↦ ?_
        simp [hd, Account.hearAll, Account.getElem?_hear, LifecycleEvent.move?]
      · next hd =>
        refine .set hi rfl (by simp [MoveOnly, LifecycleEvent.move?]) fun account known ↦ ?_
        -- an item that is not done after some time is as far as before
        have same : (item.tick elapsed).state = item.state := by
          rw [ItemProgress.state_tick] at hd ⊢
          split at hd
          · exact absurd rfl hd
          · next hl => exact if_neg hl
        simpa [same, Account.hearAll, Account.getElem?_hear, LifecycleEvent.move?] using known

/-- Finishing tells all that it does. -/
theorem reports_finishActive (run : ScreenRun) :
    Reports run.items run.finishActive.2 run.finishActive.1.items := by
  cases ha : run.active with
  | none => simpa only [finishActive_of_idle ha] using .refl run.items
  | some place =>
    cases hi : run.items[place]? with
    | none => simpa [finishActive, active?, ha, hi] using .refl run.items
    | some item =>
      rw [finishActive_of_active ha hi]
      refine .set hi rfl (by simp [MoveOnly, LifecycleEvent.move?]) fun account _ ↦ ?_
      simp [ItemProgress.finish, Account.hearAll, Account.getElem?_hear, LifecycleEvent.move?]

end ScreenRun

/-! ## Movement without events -/

/-- Some item is further along in later items. -/
def Moved (items later : List ItemProgress) : Prop :=
  ∃ (place : Nat) (item other : ItemProgress), items[place]? = some item ∧
    later[place]? = some other ∧ item.state.rank < other.state.rank

/-- An item that has moved stays further along when no item goes back. -/
theorem Moved.trans_onward {items middle later : List ItemProgress} (h : Moved items middle)
    (onward : ScreenRun.Onward middle later) : Moved items later := by
  obtain ⟨place, item, other, hi, ho, hlt⟩ := h
  obtain ⟨last, hl, hle⟩ := onward place other ho
  exact ⟨place, item, last, hi, hl, Nat.lt_of_lt_of_le hlt hle⟩

/-- An account of items says something else than how far they are once one of them has moved. -/
theorem Account.Tells.not_of_moved {account : Account} {items later : List ItemProgress}
    (told : account.Tells items) (moved : Moved items later)
    (ids_eq : later.map ItemProgress.id = items.map ItemProgress.id) : ¬ account.Tells later := by
  intro told'
  obtain ⟨place, item, other, hi, ho, hlt⟩ := moved
  have same : other.id = item.id := by
    have := congrArg (·[place]?) ids_eq
    simpa [List.getElem?_map, hi, ho] using this
  have before := told item (List.mem_of_getElem? hi)
  have behind := told' other (List.mem_of_getElem? ho)
  rw [same, before, Option.some.injEq] at behind
  rw [behind] at hlt
  exact Nat.lt_irrefl _ hlt

namespace ScreenRun

variable {entries : List RevealEntry} {run : ScreenRun}

/-- A reveal rests at an active item or at its end. -/
def Rests (run : ScreenRun) : Prop := run.active = none → run.isDone = true

/-- An advance that succeeds leaves a reveal at rest. -/
theorem rests_of_advance (h : Staged entries run.items run.active) {ε σ : Type}
    (measure : String → EStateM ε σ Nat) (world : σ) {events : List LifecycleEvent}
    (ok : (run.advance measure world).1 = .ok events) : (run.advance measure world).2.1.Rests := by
  intro idle
  have later : Staged entries (run.advance measure world).2.1.items
      (run.advance measure world).2.1.active := staged_step h (.advance measure world)
  rcases active_or_done_of_advance h measure world ok with ⟨item, hm, ha⟩ | done
  · rcases later.ready_or_done idle item hm with hs | hs <;> rw [hs] at ha <;> cases ha
  · exact done

/-- A passage through items that are all done does nothing. -/
theorem pass_of_done {ε σ : Type} (measure : String → EStateM ε σ Nat) {items : List ItemProgress}
    (done : ∀ item ∈ items, item.state = .done) (world : σ) :
    pass measure items world = ⟨.ok [], items, none, world⟩ := by
  induction items with
  | nil => rfl
  | cons item items ih =>
    obtain ⟨first, rest⟩ := List.forall_mem_cons.mp done
    rw [pass_cons_of_not_ready measure (by simp [first]), ih rest]
    rfl

/-- An advance of a reveal at rest succeeds. -/
theorem outcome_advance_of_rests (rests : run.Rests) {ε σ : Type}
    (measure : String → EStateM ε σ Nat) (world : σ) :
    (run.advance measure world).1 = .ok [] := by
  cases ha : run.active with
  | some place => rw [advance_of_active measure ha]
  | none =>
    have done : ∀ item ∈ run.items, item.state = .done := by simpa [isDone] using rests ha
    rw [advance_of_idle measure ha, pass_of_done measure done]

/-- Time that ends the reveal of the active item moves it. -/
theorem moved_tick (h : Staged entries run.items run.active) (rests : run.Rests)
    (elapsed : Duration) (ended : ¬ (run.tick elapsed).1.Rests) : Moved run.items (run.tick elapsed).1.items := by
  cases ha : run.active with
  | none =>
    rw [tick_of_idle ha] at ended
    exact absurd rests ended
  | some place =>
    obtain ⟨_, item, hi, current, -⟩ := h.exists_revealing ha
    rw [tick_of_active ha hi] at ended ⊢
    split at ended
    · next hd =>
      rw [if_pos hd]
      have hlt := (List.getElem?_eq_some_iff.mp hi).1
      refine ⟨place, item, item.tick elapsed, hi, by simp [hlt], ?_⟩
      rw [hd, current.state_eq]
      decide
    · exact absurd (fun idle ↦ by rw [ha] at idle; cases idle) ended

/-- Finishing the active item moves it. -/
theorem moved_finishActive (h : Staged entries run.items run.active) (rests : run.Rests)
    (going : run.isDone = false) : Moved run.items run.finishActive.1.items := by
  cases ha : run.active with
  | none =>
    rw [rests ha] at going
    cases going
  | some place =>
    obtain ⟨_, item, hi, current, -⟩ := h.exists_revealing ha
    have hlt := (List.getElem?_eq_some_iff.mp hi).1
    rw [finishActive_of_active ha hi]
    refine ⟨place, item, item.finish, hi, by simp [hlt], ?_⟩
    rw [current.state_eq]
    exact Nat.lt_succ_self _

end ScreenRun

end Teletype
