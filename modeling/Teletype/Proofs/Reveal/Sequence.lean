import Teletype.Reveal.Run
/-!
# The order of a reveal

At every moment the items of a screen are finished ones, then at most one that is being revealed,
then the others as they stood when the screen started. Advancing, ticking and finishing keep this
shape in any order, whatever the measures and the times are, and no item ever goes back.
-/

namespace Teletype

/-- How far along a load state is. -/
def LoadState.rank : LoadState → Nat
  | unloaded => 0
  | ready => 1
  | active => 2
  | done => 3

/-- No load state is further along than being done. -/
theorem LoadState.rank_le_done (state : LoadState) : state.rank ≤ LoadState.done.rank := by
  cases state <;> decide

/-- One operation on a reveal. Its measure may be any program that may fail. -/
inductive RevealStep where
  | advance {ε σ : Type} (measure : String → EStateM ε σ Nat) (world : σ)
  | tick (elapsed : Duration)
  | finish

/-- What the numbers of an item say in each load state. -/
def ItemProgress.Consistent (item : ItemProgress) : Prop :=
  match item.state with
  | .unloaded => False
  | .ready => item.revealed = 0 ∧ item.length = 0
  | .active => 0 < item.speed.getD 0 ∧ item.revealed < item.length
  | .done => item.revealed = item.length

private theorem revealCount_le (elapsed : Duration) (length : Nat) (speed : Option Nat) :
    revealCount elapsed length speed ≤ length := by
  unfold revealCount
  split
  · exact Nat.min_le_right _ _
  · exact Nat.le_refl _

/-- Time makes an item done exactly when all its characters are shown. -/
theorem ItemProgress.state_tick (item : ItemProgress) (elapsed : Duration) :
    (item.tick elapsed).state =
      if item.length ≤ (item.tick elapsed).revealed then .done else item.state := rfl

/-- An item that becomes active is the same item. -/
theorem ItemProgress.id_activate (item : ItemProgress) (length : Nat) :
    (item.activate length).id = item.id := by
  unfold activate
  split <;> rfl

namespace RevealEntry

/-- An item that its entry has brought to an end. -/
structure Finished (e : RevealEntry) (item : ItemProgress) : Prop where
  id_eq : item.id = e.id
  speed_eq : item.speed = e.speed
  state_eq : item.state = .done
  revealed_eq : item.revealed = item.length
  length_eq_zero : e.onLoad = false → item.length = 0

/-- An item that is being revealed for its entry. -/
structure Revealing (e : RevealEntry) (item : ItemProgress) : Prop where
  onLoad_eq : e.onLoad = true
  id_eq : item.id = e.id
  speed_eq : item.speed = e.speed
  state_eq : item.state = .active
  speed_pos : 0 < item.speed.getD 0
  revealed_lt : item.revealed < item.length

/-- Before anything is shown, an item of the sequence is ready. -/
theorem state_progress_of_onLoad {e : RevealEntry} (h : e.onLoad = true) :
    e.progress.state = .ready := by
  simp [progress, h]

/-- Before anything is shown, an item outside of the sequence is finished. -/
theorem finished_progress {e : RevealEntry} (h : e.onLoad = false) : e.Finished e.progress :=
  ⟨rfl, rfl, by simp [progress, h], rfl, fun _ ↦ rfl⟩

/-- Before anything is shown, the numbers of an item agree with its state. -/
theorem consistent_progress (e : RevealEntry) : e.progress.Consistent := by
  cases h : e.onLoad <;> simp [ItemProgress.Consistent, progress, h]

variable {e : RevealEntry} {item : ItemProgress}

/-- The numbers of a finished item agree with its state. -/
theorem Finished.consistent (h : e.Finished item) : item.Consistent := by
  simp only [ItemProgress.Consistent, h.state_eq]
  exact h.revealed_eq

/-- The numbers of an item that is being revealed agree with its state. -/
theorem Revealing.consistent (h : e.Revealing item) : item.Consistent := by
  simp only [ItemProgress.Consistent, h.state_eq]
  exact ⟨h.speed_pos, h.revealed_lt⟩

/-- A waiting item that is instant is finished by becoming active. -/
theorem finished_activate {length : Nat} (he : e.onLoad = true)
    (instant : e.progress.isInstant length = true) : e.Finished (e.progress.activate length) := by
  simp only [ItemProgress.activate, instant, ↓reduceIte]
  exact ⟨rfl, rfl, rfl, rfl, by simp [he]⟩

/-- A waiting item that needs time is being revealed once it becomes active. -/
theorem revealing_activate {length : Nat} (he : e.onLoad = true)
    (slow : e.progress.isInstant length = false) : e.Revealing (e.progress.activate length) := by
  have hs : e.speed.getD 0 ≠ 0 ∧ length ≠ 0 := by
    simpa [ItemProgress.isInstant, progress] using slow
  simp only [ItemProgress.activate, slow, Bool.false_eq_true, ↓reduceIte]
  exact ⟨he, rfl, rfl, rfl, Nat.pos_of_ne_zero hs.1, Nat.pos_of_ne_zero hs.2⟩

/-- Showing an item fully finishes it. -/
theorem Revealing.finished_finish (h : e.Revealing item) : e.Finished item.finish :=
  ⟨h.id_eq, h.speed_eq, rfl, rfl, by simp [h.onLoad_eq]⟩

/-- Time that completes an item finishes it. -/
theorem Revealing.finished_tick (h : e.Revealing item) {elapsed : Duration}
    (hd : (item.tick elapsed).state = .done) : e.Finished (item.tick elapsed) := by
  have hle : item.length ≤ (item.tick elapsed).revealed := by
    rw [ItemProgress.state_tick, h.state_eq] at hd
    split at hd
    · assumption
    · cases hd
  exact ⟨h.id_eq, h.speed_eq, hd, Nat.le_antisymm (revealCount_le _ _ _) hle,
    by simp [h.onLoad_eq]⟩

/-- Time that does not complete an item goes on revealing it. -/
theorem Revealing.revealing_tick (h : e.Revealing item) {elapsed : Duration}
    (hd : (item.tick elapsed).state ≠ .done) : e.Revealing (item.tick elapsed) := by
  rw [ItemProgress.state_tick] at hd
  have hlt : ¬ item.length ≤ (item.tick elapsed).revealed := fun hle ↦ hd (if_pos hle)
  have hs : (item.tick elapsed).state = .active := by
    rw [ItemProgress.state_tick, if_neg hlt, h.state_eq]
  exact ⟨h.onLoad_eq, h.id_eq, h.speed_eq, hs, h.speed_pos, Nat.lt_of_not_le hlt⟩

end RevealEntry

namespace ScreenRun

/-- The shape of a reveal: finished items, at most one that is being revealed, and waiting ones. -/
inductive Staged : List RevealEntry → List ItemProgress → Option Nat → Prop
  | waiting (entries : List RevealEntry) :
    Staged entries (entries.map RevealEntry.progress) none
  | revealing {e : RevealEntry} {item : ItemProgress} (entries : List RevealEntry)
    (current : e.Revealing item) :
    Staged (e :: entries) (item :: entries.map RevealEntry.progress) (some 0)
  | finished {e : RevealEntry} {item : ItemProgress} {entries : List RevealEntry}
    {items : List ItemProgress} {active : Option Nat} (first : e.Finished item)
    (rest : Staged entries items active) :
    Staged (e :: entries) (item :: items) (active.map (· + 1))

/-- A passage that succeeds has succeeded behind its first item. -/
theorem Passage.exists_of_outcome_after {ε σ : Type} {p : Passage ε σ} {item : ItemProgress}
    {events all : List LifecycleEvent} (h : (p.after item events).outcome = .ok all) :
    ∃ rest, p.outcome = .ok rest ∧ all = events ++ rest := by
  cases ho : p.outcome with
  | error e => simp [after, ho, Except.map] at h
  | ok rest =>
    simp only [after, ho, Except.map, Except.ok.injEq] at h
    exact ⟨rest, rfl, h.symm⟩

/-- A passage succeeds when it succeeds behind its first item. -/
theorem Passage.outcome_after_of_ok {ε σ : Type} {p : Passage ε σ} {rest : List LifecycleEvent}
    (h : p.outcome = .ok rest) (item : ItemProgress) (events : List LifecycleEvent) :
    (p.after item events).outcome = .ok (events ++ rest) := by
  simp only [after, h, Except.map]

/-- A passage fails just as it fails behind its first item. -/
theorem Passage.outcome_after_eq_error {ε σ : Type} {p : Passage ε σ} {item : ItemProgress}
    {events : List LifecycleEvent} {e : ε} :
    (p.after item events).outcome = .error e ↔ p.outcome = .error e := by
  cases ho : p.outcome <;> simp [after, ho, Except.map]

section Passage

variable {ε σ : Type} (measure : String → EStateM ε σ Nat)

/-- A passage leaves an item that is not ready as it is. -/
theorem pass_cons_of_not_ready {item : ItemProgress} (h : item.state ≠ .ready)
    (items : List ItemProgress) (world : σ) :
    pass measure (item :: items) world = (pass measure items world).after item [] := by
  simp only [pass, if_pos h]

/-- A passage stops at a ready item whose measure fails. -/
theorem pass_cons_of_error {item : ItemProgress} (h : item.state = .ready) {world after : σ}
    {e : ε} (hm : measure item.id world = .error e after) (items : List ItemProgress) :
    pass measure (item :: items) world = ⟨.error e, item :: items, none, after⟩ := by
  simp only [pass, h, ne_eq, not_true_eq_false, ↓reduceIte, hm]

/-- A passage goes on behind a ready item that is instant. -/
theorem pass_cons_of_instant {item : ItemProgress} (h : item.state = .ready) {world after : σ}
    {length : Nat} (hm : measure item.id world = .ok length after)
    (hi : item.isInstant length = true) (items : List ItemProgress) :
    pass measure (item :: items) world =
      (pass measure items after).after (item.activate length) (item.activationEvents length) := by
  simp only [pass, h, ne_eq, not_true_eq_false, ↓reduceIte, hm, hi]

/-- A passage ends with a ready item that needs time. -/
theorem pass_cons_of_slow {item : ItemProgress} (h : item.state = .ready) {world after : σ}
    {length : Nat} (hm : measure item.id world = .ok length after)
    (hi : item.isInstant length = false) (items : List ItemProgress) :
    pass measure (item :: items) world =
      ⟨.ok (item.activationEvents length), item.activate length :: items, some 0, after⟩ := by
  simp only [pass, h, ne_eq, not_true_eq_false, ↓reduceIte, hm, hi, Bool.false_eq_true]

private theorem staged_pass_waiting (entries : List RevealEntry) (world : σ) :
    Staged entries (pass measure (entries.map RevealEntry.progress) world).items
      (pass measure (entries.map RevealEntry.progress) world).active := by
  induction entries generalizing world with
  | nil => exact .waiting []
  | cons e entries ih =>
    rw [List.map_cons]
    cases he : e.onLoad with
    | false =>
      have hf := RevealEntry.finished_progress he
      rw [pass_cons_of_not_ready measure (by simp [hf.state_eq])]
      exact .finished hf (ih world)
    | true =>
      have hr := RevealEntry.state_progress_of_onLoad he
      cases hm : measure e.progress.id world with
      | error fault after =>
        rw [pass_cons_of_error measure hr hm]
        exact .waiting (e :: entries)
      | ok length after =>
        cases hi : e.progress.isInstant length with
        | true =>
          rw [pass_cons_of_instant measure hr hm hi]
          exact .finished (RevealEntry.finished_activate he hi) (ih after)
        | false =>
          rw [pass_cons_of_slow measure hr hm hi]
          exact .revealing entries (RevealEntry.revealing_activate he hi)

/-- A passage keeps the shape of a reveal in which nothing is active. -/
theorem Staged.pass {entries : List RevealEntry} {items : List ItemProgress} {active : Option Nat}
    (h : Staged entries items active) (idle : active = none) (world : σ) :
    Staged entries (pass measure items world).items (pass measure items world).active := by
  induction h with
  | waiting entries => exact staged_pass_waiting measure entries world
  | revealing => cases idle
  | finished first rest ih =>
    rw [pass_cons_of_not_ready measure (by simp [first.state_eq])]
    exact .finished first (ih (Option.map_eq_none_iff.mp idle))

/-- A passage that succeeds comes to an item that needs time, or leaves only items that are done. -/
theorem done_of_pass_eq_ok {items : List ItemProgress} {world : σ} {events : List LifecycleEvent}
    (known : ∀ item ∈ items, item.state = .ready ∨ item.state = .done)
    (ok : (pass measure items world).outcome = .ok events)
    (idle : (pass measure items world).active = none) :
    ∀ item ∈ (pass measure items world).items, item.state = .done := by
  induction items generalizing world events with
  | nil => simp [pass]
  | cons item items ih =>
    have hk : ∀ other ∈ items, other.state = .ready ∨ other.state = .done :=
      fun other ho ↦ known other (List.mem_cons_of_mem _ ho)
    rcases known item List.mem_cons_self with hr | hd
    · cases hm : measure item.id world with
      | error fault after =>
        rw [pass_cons_of_error measure hr hm] at ok
        cases ok
      | ok length after =>
        cases hi : item.isInstant length with
        | false =>
          rw [pass_cons_of_slow measure hr hm hi] at idle
          cases idle
        | true =>
          rw [pass_cons_of_instant measure hr hm hi] at ok idle ⊢
          obtain ⟨_, hrest, -⟩ := Passage.exists_of_outcome_after ok
          have := ih hk hrest (Option.map_eq_none_iff.mp idle)
          simpa [Passage.after, ItemProgress.activate, hi] using this
    · rw [pass_cons_of_not_ready measure (by simp [hd])] at ok idle ⊢
      obtain ⟨_, hrest, -⟩ := Passage.exists_of_outcome_after ok
      have := ih hk hrest (Option.map_eq_none_iff.mp idle)
      simpa [Passage.after, hd] using this

end Passage

/-- The active place of a staged reveal holds an item that is being revealed, and whatever takes its
place keeps the shape. -/
theorem Staged.exists_revealing {entries : List RevealEntry} {items : List ItemProgress}
    {active : Option Nat} (h : Staged entries items active) {place : Nat}
    (ha : active = some place) :
    ∃ (e : RevealEntry) (item : ItemProgress), items[place]? = some item ∧ e.Revealing item ∧
      (∀ other, e.Finished other → Staged entries (items.set place other) none) ∧
      ∀ other, e.Revealing other → Staged entries (items.set place other) (some place) := by
  induction h generalizing place with
  | waiting => cases ha
  | @revealing e item entries current =>
    cases ha
    exact ⟨e, item, rfl, current, fun other ho ↦ .finished ho (.waiting entries),
      fun other ho ↦ .revealing entries ho⟩
  | finished first rest ih =>
    obtain ⟨inner, hinner, rfl⟩ := Option.map_eq_some_iff.mp ha
    obtain ⟨e, item, hitem, hcurrent, hdone, hgoing⟩ := ih hinner
    exact ⟨e, item, hitem, hcurrent, fun other ho ↦ .finished first (hdone other ho),
      fun other ho ↦ .finished first (hgoing other ho)⟩

/-- While nothing is active every item is ready or done. -/
theorem Staged.ready_or_done {entries : List RevealEntry} {items : List ItemProgress}
    {active : Option Nat} (h : Staged entries items active) (idle : active = none) :
    ∀ item ∈ items, item.state = .ready ∨ item.state = .done := by
  induction h with
  | waiting entries =>
    intro item hm
    obtain ⟨e, -, rfl⟩ := List.mem_map.mp hm
    cases he : e.onLoad <;> simp [RevealEntry.progress, he]
  | revealing => cases idle
  | finished first rest ih =>
    intro item hm
    rcases List.mem_cons.mp hm with rfl | hm
    · exact .inr first.state_eq
    · exact ih (Option.map_eq_none_iff.mp idle) item hm

/-- In a staged reveal the numbers of every item agree with its state. -/
theorem Staged.consistent {entries : List RevealEntry} {items : List ItemProgress}
    {active : Option Nat} (h : Staged entries items active) :
    ∀ item ∈ items, item.Consistent := by
  have waiting : ∀ (entries : List RevealEntry),
      ∀ item ∈ entries.map RevealEntry.progress, item.Consistent := by
    intro entries item hm
    obtain ⟨e, -, rfl⟩ := List.mem_map.mp hm
    exact e.consistent_progress
  induction h with
  | waiting entries => exact waiting entries
  | revealing entries current =>
    exact List.forall_mem_cons.mpr ⟨current.consistent, waiting entries⟩
  | finished first rest ih => exact List.forall_mem_cons.mpr ⟨first.consistent, ih⟩

/-- The reveal after an operation. -/
def step (run : ScreenRun) : RevealStep → ScreenRun
  | .advance measure world => (run.advance measure world).2.1
  | .tick elapsed => (run.tick elapsed).1
  | .finish => run.finishActive.1

/-- The reveal after several operations. -/
def stepAll (run : ScreenRun) (steps : List RevealStep) : ScreenRun := steps.foldl step run

/-- Advancing does nothing while an item is active. -/
theorem advance_of_active {ε σ : Type} (measure : String → EStateM ε σ Nat) {run : ScreenRun}
    {place : Nat} (h : run.active = some place) (world : σ) :
    run.advance measure world = (.ok [], run, world) := by
  simp only [advance, h]

/-- Advancing is a passage through the items when nothing is active. -/
theorem advance_of_idle {ε σ : Type} (measure : String → EStateM ε σ Nat) {run : ScreenRun}
    (h : run.active = none) (world : σ) :
    run.advance measure world =
      ((pass measure run.items world).outcome,
        { run with
          items := (pass measure run.items world).items
          active := (pass measure run.items world).active },
        (pass measure run.items world).world) := by
  simp only [advance, h]

/-- Without an active item time changes nothing. -/
theorem tick_of_idle {run : ScreenRun} (h : run.active = none) (elapsed : Duration) :
    run.tick elapsed = (run, []) := by
  simp only [tick, h]

/-- Without an active item there is nothing to finish. -/
theorem finishActive_of_idle {run : ScreenRun} (h : run.active = none) :
    run.finishActive = (run, []) := by
  simp only [finishActive, h]

/-- Time may complete the active item. -/
theorem tick_of_active {run : ScreenRun} {place : Nat} {item : ItemProgress}
    (h : run.active = some place) (hi : run.items[place]? = some item) (elapsed : Duration) :
    run.tick elapsed =
      if (item.tick elapsed).state = .done then
        ({ run with items := run.items.set place (item.tick elapsed), active := none },
          [.revealed item.id (item.tick elapsed).revealed, .done item.id])
      else
        ({ run with items := run.items.set place (item.tick elapsed) },
          [.revealed item.id (item.tick elapsed).revealed]) := by
  have ha : run.active? = some item := by simp [active?, h, hi]
  simp only [tick, h, ha]
  rfl

/-- Finishing makes the active item done. -/
theorem finishActive_of_active {run : ScreenRun} {place : Nat} {item : ItemProgress}
    (h : run.active = some place) (hi : run.items[place]? = some item) :
    run.finishActive =
      ({ run with items := run.items.set place item.finish, active := none },
        [.revealed item.id item.length, .done item.id]) := by
  have ha : run.active? = some item := by simp [active?, h, hi]
  simp only [finishActive, h, ha]

/-- Advancing does not change the screen. -/
@[simp]
theorem screen_advance {ε σ : Type} (measure : String → EStateM ε σ Nat) (run : ScreenRun)
    (world : σ) : (run.advance measure world).2.1.screen = run.screen := by
  unfold advance
  split <;> rfl

/-- Ticking does not change the screen. -/
@[simp]
theorem screen_tick (run : ScreenRun) (elapsed : Duration) :
    (run.tick elapsed).1.screen = run.screen := by
  unfold tick
  split
  · simp only
    split <;> rfl
  · rfl

/-- Finishing does not change the screen. -/
@[simp]
theorem screen_finishActive (run : ScreenRun) : run.finishActive.1.screen = run.screen := by
  unfold finishActive
  split <;> rfl

/-- No operation changes the screen. -/
theorem screen_step (run : ScreenRun) (op : RevealStep) : (run.step op).screen = run.screen := by
  cases op with
  | advance measure world => exact screen_advance measure run world
  | tick elapsed => exact screen_tick run elapsed
  | finish => exact screen_finishActive run

/-- One more operation is done behind the others. -/
theorem stepAll_concat (run : ScreenRun) (steps : List RevealStep) (op : RevealStep) :
    run.stepAll (steps ++ [op]) = (run.stepAll steps).step op := by
  rw [stepAll, List.foldl_append]
  rfl

/-- Every operation keeps the shape of a reveal. -/
theorem staged_step {entries : List RevealEntry} {run : ScreenRun}
    (h : Staged entries run.items run.active) (op : RevealStep) :
    Staged entries (run.step op).items (run.step op).active := by
  cases ha : run.active with
  | none =>
    cases op with
    | advance measure world =>
      simp only [step, advance_of_idle measure ha]
      exact h.pass measure ha world
    | tick elapsed => simpa only [step, tick_of_idle ha] using h
    | finish => simpa only [step, finishActive_of_idle ha] using h
  | some place =>
    obtain ⟨e, item, hitem, hcurrent, hdone, hgoing⟩ := h.exists_revealing ha
    cases op with
    | advance measure world => simpa only [step, advance_of_active measure ha] using h
    | tick elapsed =>
      simp only [step, tick_of_active ha hitem]
      split
      · next hd => exact hdone _ (hcurrent.finished_tick hd)
      · next hd => simpa only [ha] using hgoing _ (hcurrent.revealing_tick hd)
    | finish =>
      simp only [step, finishActive_of_active ha hitem]
      exact hdone _ hcurrent.finished_finish

/-- Every run of operations keeps the shape of a reveal. -/
theorem Staged.stepAll {entries : List RevealEntry} {run : ScreenRun}
    (h : Staged entries run.items run.active) (steps : List RevealStep) :
    Staged entries (run.stepAll steps).items (run.stepAll steps).active :=
  List.foldlRecOn (motive := fun run ↦ Staged entries run.items run.active) steps step h
    fun _ h op _ ↦ staged_step h op

/-- Every run of operations from the start keeps the shape of a reveal. -/
theorem staged_stepAll (screen : String) (entries : List RevealEntry) (steps : List RevealStep) :
    Staged entries ((start screen entries).stepAll steps).items
      ((start screen entries).stepAll steps).active := by
  have h : Staged entries (start screen entries).items (start screen entries).active :=
    .waiting entries
  exact h.stepAll steps

end ScreenRun

end Teletype
