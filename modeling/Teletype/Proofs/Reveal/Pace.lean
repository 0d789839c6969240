import Mathlib.Algebra.GroupWithZero.Nat
import Mathlib.Data.List.Induction
import Teletype.Proofs.Reveal.Sequence
/-!
# The pace of a reveal

How much of an item is shown depends on the time that has passed since it became active, and on
nothing else: not on how the time was cut into ticks, nor on what was tried in between. Parts of a
millisecond and of a character are not lost from one tick to the next, and the item is done with the
tick that brings enough time for all of it.
-/

namespace Teletype

/-- Spans of time one after another, as far as the greatest span. -/
def Duration.sum (spans : List Duration) : Duration := ⟨min (spans.map nanos).sum most.nanos⟩

/-- One more span is added to those before it. -/
theorem Duration.sum_concat (spans : List Duration) (span : Duration) :
    sum (spans ++ [span]) = (sum spans).add span := by
  simp only [sum, add, List.map_append, List.map_singleton, List.sum_append, List.sum_singleton,
    mk.injEq]
  omega

/-- The time that an operation lets pass. -/
def RevealStep.span? : RevealStep → Option Duration
  | tick elapsed => some elapsed
  | advance .. | finish => none

/-- The times that operations let pass, in order. -/
def spans (steps : List RevealStep) : List Duration := steps.filterMap RevealStep.span?

/-- An item that is revealed at a delay for each character, when some time has passed since it
became active. -/
def ItemProgress.lapsed (item : ItemProgress) (delay : Nat) (total : Duration) : ItemProgress :=
  { item with
    elapsed := total
    revealed := min (total.millis / delay) item.length
    state := if item.length ≤ total.millis / delay then .done else .active }

variable {item : ItemProgress} {delay : Nat}

/-- When no time has passed nothing is shown of an item that has something to show. -/
theorem ItemProgress.lapsed_zero (current : item.state = .active) (unseen : item.revealed = 0)
    (fresh : item.elapsed = .zero) (long : 0 < item.length) : item.lapsed delay .zero = item := by
  obtain ⟨id, state, revealed, length, speed, elapsed⟩ := item
  cases current
  cases unseen
  cases fresh
  have short : ¬ length = 0 := Nat.ne_of_gt long
  simp [lapsed, Duration.millis, Duration.zero, short]

/-- As long as an item is not done, time passes on from what has passed. -/
theorem ItemProgress.tick_lapsed (speed : item.speed = some delay) (positive : 0 < delay)
    {total : Duration} (going : (item.lapsed delay total).state ≠ .done) (elapsed : Duration) :
    (item.lapsed delay total).tick elapsed = item.lapsed delay (total.add elapsed) := by
  obtain ⟨delay, rfl⟩ : ∃ n, delay = n + 1 := ⟨delay - 1, by omega⟩
  have active : (item.lapsed (delay + 1) total).state = .active := by
    unfold lapsed at going ⊢
    split at going
    · exact absurd rfl going
    · next short => exact if_neg short
  have shown : revealCount (total.add elapsed) item.length item.speed =
      min ((total.add elapsed).millis / (delay + 1)) item.length := by
    rw [speed, revealCount]
  simp only [tick, active]
  simp only [lapsed, shown, Nat.le_min, Nat.le_refl, and_true]

namespace ScreenRun

/-- An item of a reveal some time after it became active. It stays the active one until it is
done. -/
structure Lapsed (place : Nat) (item : ItemProgress) (delay : Nat) (total : Duration)
    (run : ScreenRun) : Prop where
  at_place : run.items[place]? = some (item.lapsed delay total)
  active_of_going : (item.lapsed delay total).state ≠ .done → run.active = some place

/-- Operations on a reveal that wait for the item at a place. They may advance and let time pass,
and none of the ticks comes when those before it have completed the item. -/
structure Awaits (run : ScreenRun) (place : Nat) (steps : List RevealStep) : Prop where
  unfinished : .finish ∉ steps
  finds_going : ∀ before elapsed after, steps = before ++ .tick elapsed :: after →
    ∀ item, (run.stepAll before).items[place]? = some item → item.state ≠ .done

variable {run : ScreenRun} {place : Nat} {steps : List RevealStep}

/-- Operations that wait for an item have done so before the last one of them. -/
theorem Awaits.of_concat {op : RevealStep} (h : run.Awaits place (steps ++ [op])) :
    run.Awaits place steps := by
  refine ⟨fun mem ↦ h.unfinished (List.mem_append_left _ mem), ?_⟩
  rintro before elapsed after rfl
  exact h.finds_going before elapsed (after ++ [op]) (by simp)

/-- Doing nothing waits for every item. -/
theorem awaits_nil (run : ScreenRun) (place : Nat) : run.Awaits place [] :=
  ⟨List.not_mem_nil, fun before elapsed after split ↦ by simp at split⟩

/-- A tick waits for an item that is not done, and what follows goes on waiting. -/
theorem Awaits.tick {elapsed : Duration}
    (going : ∀ item, run.items[place]? = some item → item.state ≠ .done)
    (rest : (run.tick elapsed).1.Awaits place steps) :
    run.Awaits place (.tick elapsed :: steps) := by
  refine ⟨by simpa using rest.unfinished, fun before other after split ↦ ?_⟩
  cases before with
  | nil => exact going
  | cons op before =>
    obtain ⟨rfl, same⟩ := List.cons.inj split
    exact rest.finds_going before other after same

/-- A passage leaves an item that is done in its place. -/
theorem getElem?_pass_of_done {ε σ : Type} (measure : String → EStateM ε σ Nat)
    {items : List ItemProgress} {done : ItemProgress} (hi : items[place]? = some done)
    (hd : done.state = .done) (world : σ) :
    (pass measure items world).items[place]? = some done := by
  induction items generalizing place world with
  | nil => cases hi
  | cons first items ih =>
    by_cases hr : first.state = .ready
    · cases hm : measure first.id world with
      | error fault after => rwa [pass_cons_of_error measure hr hm]
      | ok length after =>
        cases place with
        | zero =>
          cases hi
          cases hr.symm.trans hd
        | succ place =>
          cases instant : first.isInstant length with
          | true =>
            rw [pass_cons_of_instant measure hr hm instant]
            exact ih hi after
          | false => rwa [pass_cons_of_slow measure hr hm instant]
    · rw [pass_cons_of_not_ready measure hr]
      cases place with
      | zero => exact hi
      | succ place => exact ih hi world

/-- An advance leaves an item as it is that has become active. -/
theorem Lapsed.advance {total : Duration} (h : run.Lapsed place item delay total) {ε σ : Type}
    (measure : String → EStateM ε σ Nat) (world : σ) :
    (run.advance measure world).2.1.Lapsed place item delay total := by
  cases ha : run.active with
  | some _ => rwa [advance_of_active measure ha]
  | none =>
    have done : (item.lapsed delay total).state = .done := by
      refine Decidable.byContradiction fun going ↦ ?_
      cases ha.symm.trans (h.active_of_going going)
    rw [advance_of_idle measure ha]
    exact ⟨getElem?_pass_of_done measure h.at_place done world, fun going ↦ absurd done going⟩

/-- A tick adds to the time that has passed for an item that is not done. -/
theorem Lapsed.tick {total : Duration} (h : run.Lapsed place item delay total)
    (speed : item.speed = some delay) (positive : 0 < delay)
    (going : (item.lapsed delay total).state ≠ .done) (elapsed : Duration) :
    (run.tick elapsed).1.Lapsed place item delay (total.add elapsed) := by
  have active := h.active_of_going going
  have inside := (List.getElem?_eq_some_iff.mp h.at_place).1
  have later := item.tick_lapsed speed positive going elapsed
  rw [tick_of_active active h.at_place, later]
  split
  · next done => exact ⟨by simp [inside], fun going ↦ absurd done going⟩
  · exact ⟨by simp [inside], fun _ ↦ active⟩

/-- An item for which operations wait is as the time has left it that they let pass. -/
theorem Lapsed.stepAll (h : run.Lapsed place item delay .zero) (speed : item.speed = some delay)
    (positive : 0 < delay) (awaits : run.Awaits place steps) :
    (run.stepAll steps).Lapsed place item delay (Duration.sum (spans steps)) := by
  -- from the back, since what has passed is a sum that the last tick adds to
  induction steps using List.reverseRecOn with
  | nil => exact h
  | append_singleton steps op ih =>
    have before := ih awaits.of_concat
    rw [stepAll_concat]
    cases op with
    | finish => exact absurd (List.mem_append_right _ List.mem_cons_self) awaits.unfinished
    | advance measure world =>
      have same : spans (steps ++ [.advance measure world]) = spans steps := by
        simp [spans, RevealStep.span?]
      rw [same]
      exact before.advance measure world
    | tick elapsed =>
      have going := awaits.finds_going steps elapsed [] rfl _ before.at_place
      have more : spans (steps ++ [.tick elapsed]) = spans steps ++ [elapsed] := by
        simp [spans, RevealStep.span?]
      rw [more, Duration.sum_concat]
      exact before.tick speed positive going elapsed

/-- Until its turn comes an item is as it was before the screen started. -/
theorem Staged.exists_progress_of_ready {entries : List RevealEntry} {items : List ItemProgress}
    {active : Option Nat} (h : Staged entries items active) :
    ∀ item ∈ items, item.state = .ready → ∃ e : RevealEntry, item = e.progress := by
  have waiting : ∀ (entries : List RevealEntry), ∀ item ∈ entries.map RevealEntry.progress,
      item.state = .ready → ∃ e : RevealEntry, item = e.progress := by
    intro entries item hm _
    obtain ⟨e, -, rfl⟩ := List.mem_map.mp hm
    exact ⟨e, rfl⟩
  induction h with
  | waiting entries => exact waiting entries
  | revealing entries current =>
    refine List.forall_mem_cons.mpr ⟨fun ready ↦ ?_, waiting entries⟩
    cases current.state_eq.symm.trans ready
  | finished first rest ih =>
    refine List.forall_mem_cons.mpr ⟨fun ready ↦ ?_, ih⟩
    cases first.state_eq.symm.trans ready

/-- A passage comes to an item that was ready and needs time for the length measured. -/
theorem exists_ready_of_pass {ε σ : Type} (measure : String → EStateM ε σ Nat)
    {items : List ItemProgress} {world : σ} (h : (pass measure items world).active = some place) :
    ∃ first ∈ items, ∃ length, first.state = .ready ∧ first.isInstant length = false ∧
      (pass measure items world).items[place]? = some (first.activate length) := by
  induction items generalizing place world with
  | nil => cases h
  | cons first items ih =>
    -- what comes to an item behind the first one comes to one of the list
    have behind : ∀ {world : σ} {inner : Nat}, (pass measure items world).active = some inner →
        ∃ item ∈ first :: items, ∃ length, item.state = .ready ∧ item.isInstant length = false ∧
          (pass measure items world).items[inner]? = some (item.activate length) := by
      intro world inner hinner
      obtain ⟨item, mem, found⟩ := ih hinner
      exact ⟨item, List.mem_cons_of_mem _ mem, found⟩
    by_cases hr : first.state = .ready
    · cases hm : measure first.id world with
      | error fault after =>
        rw [pass_cons_of_error measure hr hm] at h
        cases h
      | ok length after =>
        cases instant : first.isInstant length with
        | false =>
          rw [pass_cons_of_slow measure hr hm instant] at h ⊢
          cases h
          exact ⟨first, List.mem_cons_self, length, hr, instant, rfl⟩
        | true =>
          rw [pass_cons_of_instant measure hr hm instant] at h ⊢
          obtain ⟨inner, hinner, rfl⟩ := Option.map_eq_some_iff.mp h
          exact behind hinner
    · rw [pass_cons_of_not_ready measure hr] at h ⊢
      obtain ⟨inner, hinner, rfl⟩ := Option.map_eq_some_iff.mp h
      exact behind hinner

/-- An item that has just become active needs time and none has passed for it. -/
theorem Staged.exists_lapsed_of_advance {entries : List RevealEntry}
    (staged : Staged entries run.items run.active) (idle : run.active = none) {ε σ : Type}
    (measure : String → EStateM ε σ Nat) (world : σ)
    (current : (run.advance measure world).2.1.active = some place) :
    ∃ item delay, (run.advance measure world).2.1.items[place]? = some item ∧
      item.state = .active ∧ item.speed = some delay ∧ 0 < delay ∧ 0 < item.length ∧
      (run.advance measure world).2.1.Lapsed place item delay .zero := by
  rw [advance_of_idle measure idle] at current ⊢
  obtain ⟨first, mem, length, ready, slow, at_place⟩ := exists_ready_of_pass measure current
  obtain ⟨e, rfl⟩ := staged.exists_progress_of_ready first mem ready
  obtain ⟨quick, long⟩ : e.speed.getD 0 ≠ 0 ∧ length ≠ 0 := by
    simpa [ItemProgress.isInstant, RevealEntry.progress] using slow
  obtain ⟨delay, speed⟩ : ∃ delay, e.speed = some delay := by
    cases hs : e.speed with
    | none => simp [hs] at quick
    | some delay => exact ⟨delay, rfl⟩
  have positive : 0 < delay := by
    simp only [speed, Option.getD_some] at quick
    omega
  have begun : e.progress.activate length = { e.progress with state := .active, length } := by
    simp [ItemProgress.activate, slow]
  rw [begun] at at_place
  refine ⟨_, delay, at_place, rfl, speed, positive, Nat.pos_of_ne_zero long, ?_, fun _ ↦ current⟩
  rwa [ItemProgress.lapsed_zero rfl rfl rfl (Nat.pos_of_ne_zero long)]

/-- The pace of a reveal does not depend on how its time is cut into ticks. Take any item that has
just become active. As long as it is waited for, the characters shown are those for which the time
that has passed in all suffices, whole milliseconds being counted at the end; it is done exactly
when that is its length; and waiting for the same time in another way leaves the same item. -/
theorem revealed_by_time_passed (screen : String) (entries : List RevealEntry)
    (steps : List RevealStep) (idle : ((start screen entries).stepAll steps).active = none)
    {ε σ : Type} (measure : String → EStateM ε σ Nat) (world : σ)
    (current : (((start screen entries).stepAll steps).advance measure world).2.1.active =
      some place) :
    let run := (((start screen entries).stepAll steps).advance measure world).2.1
    ∃ item delay, run.items[place]? = some item ∧ item.state = .active ∧
      item.speed = some delay ∧ 0 < delay ∧ 0 < item.length ∧
      (∀ waits, run.Awaits place waits →
        ∃ later, (run.stepAll waits).items[place]? = some later ∧
          later.length = item.length ∧
          later.revealed = min item.length ((Duration.sum (spans waits)).millis / delay) ∧
          (later.state = .done ↔ item.length ≤ (Duration.sum (spans waits)).millis / delay)) ∧
      ∀ waits others, run.Awaits place waits → run.Awaits place others →
        Duration.sum (spans waits) = Duration.sum (spans others) →
        (run.stepAll waits).items[place]? = (run.stepAll others).items[place]? := by
  intro run
  obtain ⟨item, delay, at_place, active, speed, positive, long, lapsed⟩ :=
    (staged_stepAll screen entries steps).exists_lapsed_of_advance idle measure world current
  have later : ∀ {waits}, run.Awaits place waits →
      (run.stepAll waits).items[place]? = some (item.lapsed delay (Duration.sum (spans waits))) :=
    fun awaits ↦ (lapsed.stepAll speed positive awaits).at_place
  refine ⟨item, delay, at_place, active, speed, positive, long, fun waits awaits ↦
    ⟨_, later awaits, rfl, Nat.min_comm _ _, ?_⟩, fun waits others hw ho same ↦ ?_⟩
  · simp [ItemProgress.lapsed]
  · rw [later hw, later ho, same]

/-- Ten characters, one of which is shown every fifty milliseconds. Three are shown after two
frames of 120 and 30 milliseconds, as they are after one frame of 150. -/
theorem revealed_by_time_passed_frames :
    let entries : List RevealEntry := [⟨"t", true, some 50⟩]
    let measure : String → EStateM Unit Unit Nat := fun _ ↦ pure 10
    let run := (((start "s" entries).stepAll []).advance measure ()).2.1
    let frames : List RevealStep := [.tick (.ofMillis 120), .tick (.ofMillis 30)]
    ((start "s" entries).stepAll []).active = none ∧ run.active = some 0 ∧
      run.Awaits 0 frames ∧ run.Awaits 0 [.tick (.ofMillis 150)] ∧
      (run.stepAll frames).items[0]? = (run.stepAll [.tick (.ofMillis 150)]).items[0]? ∧
      (run.stepAll frames).items[0]?.map ItemProgress.revealed = some 3 := by
  intro entries measure run frames
  have awaits : run.Awaits 0 frames :=
    Awaits.tick (by rintro _ ⟨⟩; decide) (.tick (by rintro _ ⟨⟩; decide) (awaits_nil _ _))
  have awaits' : run.Awaits 0 [.tick (.ofMillis 150)] :=
    Awaits.tick (by rintro _ ⟨⟩; decide) (awaits_nil _ _)
  have current : run.active = some 0 := rfl
  obtain ⟨item, delay, -, -, -, -, -, -, same⟩ :=
    revealed_by_time_passed "s" entries [] rfl measure () current
  exact ⟨rfl, current, awaits, awaits', same _ _ awaits awaits' (by decide), by decide⟩

end ScreenRun

end Teletype
