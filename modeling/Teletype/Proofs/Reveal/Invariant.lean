import Teletype.Proofs.Reveal.Sequence
/-!
# The invariant of a reveal

What the host may rely on at every moment of a reveal, place by place: which item is the active one,
what stands before and behind it, and what the numbers of every item say. Whatever is done in
whatever order, this holds, no item goes back, and an advance that succeeds leaves something active
or everything done.
-/

namespace Teletype.ScreenRun

/-- How far the item at a place has come. -/
def stateAt? (run : ScreenRun) (place : Nat) : Option LoadState :=
  run.items[place]?.map ItemProgress.state

/-- Whether the entry at a place takes part in the sequence. -/
def OnLoadAt (entries : List RevealEntry) (place : Nat) : Prop :=
  ∃ e, entries[place]? = some e ∧ e.onLoad = true

/-- The reveal of some entries is in order. -/
structure Sequenced (entries : List RevealEntry) (run : ScreenRun) : Prop where
  ids_eq : run.items.map ItemProgress.id = entries.map RevealEntry.id
  speeds_eq : run.items.map ItemProgress.speed = entries.map RevealEntry.speed
  /-- The active place is that of the one and only active item. -/
  active_iff : ∀ i, run.active = some i ↔
    run.stateAt? i = some .active ∧ ∀ j, run.stateAt? j = some .active → j = i
  /-- In the sequence everything before the active item is done. -/
  done_before : ∀ i j, run.active = some i → j < i → OnLoadAt entries j →
    run.stateAt? j = some .done
  /-- In the sequence everything behind the active item is ready. -/
  ready_after : ∀ i j, run.active = some i → i < j → OnLoadAt entries j →
    run.stateAt? j = some .ready
  /-- While nothing is active the items of the sequence that are done come first. -/
  done_first : run.active = none → ∀ i j, i < j → OnLoadAt entries i → OnLoadAt entries j →
    run.stateAt? j = some .done → run.stateAt? i = some .done
  /-- Items outside of the sequence are done with nothing to show. -/
  done_outside : ∀ (i : Nat) (e : RevealEntry) (item : ItemProgress), entries[i]? = some e →
    e.onLoad = false → run.items[i]? = some item →
      item.state = .done ∧ item.revealed = 0 ∧ item.length = 0
  consistent : ∀ item ∈ run.items, item.Consistent

/-- How an item stands to its entry, given the place of the first item that is not finished. -/
inductive Standing (active : Option Nat) (frontier place : Nat) (e : RevealEntry) :
    ItemProgress → Prop
  | finished {item : ItemProgress} (before : place < frontier) (done : e.Finished item) :
    Standing active frontier place e item
  | revealing {item : ItemProgress} (here : place = frontier) (is_active : active = some frontier)
    (current : e.Revealing item) : Standing active frontier place e item
  | waiting (behind : frontier ≤ place) (passed : active = some frontier → frontier < place) :
    Standing active frontier place e e.progress

private theorem Staged.exists_frontier {entries : List RevealEntry} {items : List ItemProgress}
    {active : Option Nat} (h : Staged entries items active) :
    items.length = entries.length ∧ ∃ frontier, (active = none ∨ active = some frontier) ∧
      ∀ place (e : RevealEntry) (item : ItemProgress), entries[place]? = some e →
        items[place]? = some item → Standing active frontier place e item := by
  induction h with
  | waiting entries =>
    refine ⟨by simp, 0, .inl rfl, fun place e item he hi ↦ ?_⟩
    rw [List.getElem?_map, he] at hi
    cases hi
    exact .waiting (Nat.zero_le _) (fun h ↦ by cases h)
  | revealing entries current =>
    refine ⟨by simp, 0, .inr rfl, fun place e item he hi ↦ ?_⟩
    cases place with
    | zero =>
      cases he
      cases hi
      exact .revealing rfl rfl current
    | succ place =>
      rw [List.getElem?_cons_succ] at he hi
      rw [List.getElem?_map, he] at hi
      cases hi
      exact .waiting (Nat.zero_le _) (fun _ ↦ Nat.succ_pos _)
  | @finished first item₀ entries items active hfirst rest ih =>
    obtain ⟨hl, frontier, ha, hstanding⟩ := ih
    have hmap : active.map (· + 1) = some (frontier + 1) ↔ active = some frontier := by
      cases active <;> simp
    refine ⟨by simp [hl], frontier + 1, ?_, fun place e item he hi ↦ ?_⟩
    · rcases ha with ha | ha <;> simp [ha]
    · cases place with
      | zero =>
        cases he
        cases hi
        exact .finished (Nat.succ_pos _) hfirst
      | succ place =>
        rw [List.getElem?_cons_succ] at he hi
        cases hstanding place e item he hi with
        | finished before done => exact .finished (Nat.succ_lt_succ before) done
        | revealing here is_active current =>
          exact .revealing (congrArg (· + 1) here) (hmap.mpr is_active) current
        | waiting behind passed =>
          exact .waiting (Nat.succ_le_succ behind)
            (fun h ↦ Nat.succ_lt_succ (passed (hmap.mp h)))

namespace Standing

variable {active : Option Nat} {frontier place : Nat} {e : RevealEntry} {item : ItemProgress}

private theorem entry_eq (h : Standing active frontier place e item) :
    item.id = e.id ∧ item.speed = e.speed := by
  cases h with
  | finished _ done => exact ⟨done.id_eq, done.speed_eq⟩
  | revealing _ _ current => exact ⟨current.id_eq, current.speed_eq⟩
  | waiting => exact ⟨rfl, rfl⟩

private theorem of_active (h : Standing active frontier place e item) (ha : item.state = .active) :
    place = frontier ∧ active = some frontier := by
  cases h with
  | finished _ done => rw [done.state_eq] at ha; cases ha
  | revealing here is_active _ => exact ⟨here, is_active⟩
  | waiting => cases he : e.onLoad <;> simp [RevealEntry.progress, he] at ha

private theorem active_of_place (h : Standing active frontier place e item)
    (ha : active = some place) (hf : active = none ∨ active = some frontier) :
    item.state = .active := by
  have hp : place = frontier := by
    rcases hf with hf | hf
    · rw [hf] at ha; cases ha
    · exact Option.some.inj (ha.symm.trans hf)
  cases h with
  | finished before _ => omega
  | revealing _ _ current => exact current.state_eq
  | waiting _ passed => have := passed (hp ▸ ha); omega

private theorem done_of_lt (h : Standing active frontier place e item) (hlt : place < frontier) :
    item.state = .done := by
  cases h with
  | finished _ done => exact done.state_eq
  | revealing here => omega
  | waiting behind => omega

private theorem ready_of_gt (h : Standing active frontier place e item) (he : e.onLoad = true)
    (hgt : frontier < place) : item.state = .ready := by
  cases h with
  | finished before => omega
  | revealing here => omega
  | waiting => exact RevealEntry.state_progress_of_onLoad he

private theorem lt_of_done (h : Standing active frontier place e item) (he : e.onLoad = true)
    (hd : item.state = .done) : place < frontier := by
  cases h with
  | finished before => exact before
  | revealing _ _ current => rw [current.state_eq] at hd; cases hd
  | waiting => rw [RevealEntry.state_progress_of_onLoad he] at hd; cases hd

private theorem done_outside (h : Standing active frontier place e item) (he : e.onLoad = false) :
    item.state = .done ∧ item.revealed = 0 ∧ item.length = 0 := by
  have finished : e.Finished item := by
    cases h with
    | finished _ done => exact done
    | revealing _ _ current => rw [current.onLoad_eq] at he; cases he
    | waiting => exact RevealEntry.finished_progress he
  have hl := finished.length_eq_zero he
  exact ⟨finished.state_eq, finished.revealed_eq.trans hl, hl⟩

end Standing

/-- Every item of a reveal stands to its entry as the frontier says. -/
structure Placed (entries : List RevealEntry) (run : ScreenRun) (frontier : Nat) : Prop where
  length_eq : run.items.length = entries.length
  active_eq : run.active = none ∨ run.active = some frontier
  standing : ∀ (place : Nat) (e : RevealEntry) (item : ItemProgress), entries[place]? = some e →
    run.items[place]? = some item → Standing run.active frontier place e item

namespace Placed

variable {entries : List RevealEntry} {run : ScreenRun} {frontier place : Nat}

private theorem exists_item (h : Placed entries run frontier) {e : RevealEntry}
    (he : entries[place]? = some e) :
    ∃ item, run.items[place]? = some item ∧ Standing run.active frontier place e item := by
  have hlt : place < run.items.length := by
    rw [h.length_eq]
    exact (List.getElem?_eq_some_iff.mp he).1
  have hi := List.getElem?_eq_getElem hlt
  exact ⟨_, hi, h.standing place e _ he hi⟩

private theorem exists_entry (h : Placed entries run frontier) {item : ItemProgress}
    (hi : run.items[place]? = some item) :
    ∃ e, entries[place]? = some e ∧ Standing run.active frontier place e item := by
  have hlt : place < entries.length := by
    rw [← h.length_eq]
    exact (List.getElem?_eq_some_iff.mp hi).1
  have he := List.getElem?_eq_getElem hlt
  exact ⟨_, he, h.standing place _ item he hi⟩

private theorem exists_of_stateAt? (h : Placed entries run frontier) {state : LoadState}
    (hs : run.stateAt? place = some state) :
    ∃ e item, Standing run.active frontier place e item ∧ item.state = state := by
  obtain ⟨item, hi, rfl⟩ := Option.map_eq_some_iff.mp hs
  obtain ⟨e, -, standing⟩ := h.exists_entry hi
  exact ⟨e, item, standing, rfl⟩

private theorem exists_of_onLoadAt (h : Placed entries run frontier) (ho : OnLoadAt entries place) :
    ∃ e item, e.onLoad = true ∧ Standing run.active frontier place e item ∧
      run.stateAt? place = some item.state := by
  obtain ⟨e, he, ho⟩ := ho
  obtain ⟨item, hi, standing⟩ := h.exists_item he
  refine ⟨e, item, ho, standing, ?_⟩
  rw [stateAt?, hi, Option.map_some]

private theorem eq_frontier (h : Placed entries run frontier) (ha : run.active = some place) :
    place = frontier := by
  rcases h.active_eq with hn | hf
  · rw [hn] at ha
    cases ha
  · exact Option.some.inj (ha.symm.trans hf)

private theorem map_eq (h : Placed entries run frontier) {α : Type} {f : ItemProgress → α}
    {g : RevealEntry → α}
    (same : ∀ {place e item}, Standing run.active frontier place e item → f item = g e) :
    run.items.map f = entries.map g := by
  apply List.ext_getElem?
  intro place
  rw [List.getElem?_map, List.getElem?_map]
  cases hi : run.items[place]? with
  | some item =>
    obtain ⟨e, he, standing⟩ := h.exists_entry hi
    rw [he, Option.map_some, Option.map_some, same standing]
  | none =>
    have hle := List.getElem?_eq_none_iff.mp hi
    rw [h.length_eq] at hle
    rw [List.getElem?_eq_none hle]
    rfl

private theorem active_iff (h : Placed entries run frontier) (hrun : Staged entries run.items run.active) :
    run.active = some place ↔ run.stateAt? place = some .active ∧
      ∀ j, run.stateAt? j = some .active → j = place := by
  constructor
  · intro ha
    obtain ⟨_, item, hi, -⟩ := hrun.exists_revealing ha
    obtain ⟨e, -, standing⟩ := h.exists_entry hi
    constructor
    · rw [stateAt?, hi, Option.map_some, standing.active_of_place ha h.active_eq]
    · intro j hj
      obtain ⟨_, _, other, hs⟩ := h.exists_of_stateAt? hj
      exact (other.of_active hs).1.trans (h.eq_frontier ha).symm
  · rintro ⟨hs, -⟩
    obtain ⟨_, _, standing, hs⟩ := h.exists_of_stateAt? hs
    obtain ⟨hplace, ha⟩ := standing.of_active hs
    rw [hplace, ha]

private theorem stateAt?_of_lt (h : Placed entries run frontier) (ho : OnLoadAt entries place)
    (hlt : place < frontier) : run.stateAt? place = some .done := by
  obtain ⟨_, _, -, standing, hs⟩ := h.exists_of_onLoadAt ho
  rw [hs, standing.done_of_lt hlt]

private theorem stateAt?_of_gt (h : Placed entries run frontier) (ho : OnLoadAt entries place)
    (hgt : frontier < place) : run.stateAt? place = some .ready := by
  obtain ⟨_, _, he, standing, hs⟩ := h.exists_of_onLoadAt ho
  rw [hs, standing.ready_of_gt he hgt]

private theorem lt_of_stateAt? (h : Placed entries run frontier) (ho : OnLoadAt entries place)
    (hd : run.stateAt? place = some .done) : place < frontier := by
  obtain ⟨_, _, he, standing, hs⟩ := h.exists_of_onLoadAt ho
  rw [hs] at hd
  exact standing.lt_of_done he (Option.some.inj hd)

end Placed

private theorem Staged.exists_placed {entries : List RevealEntry} {run : ScreenRun}
    (h : Staged entries run.items run.active) : ∃ frontier, Placed entries run frontier := by
  obtain ⟨hl, frontier, hf, standing⟩ := h.exists_frontier
  exact ⟨frontier, hl, hf, standing⟩

/-- A staged reveal is in order. -/
theorem Staged.sequenced {entries : List RevealEntry} {run : ScreenRun}
    (h : Staged entries run.items run.active) : Sequenced entries run := by
  obtain ⟨frontier, placed⟩ := h.exists_placed
  constructor
  case ids_eq => exact placed.map_eq fun standing ↦ standing.entry_eq.1
  case speeds_eq => exact placed.map_eq fun standing ↦ standing.entry_eq.2
  case active_iff => exact fun i ↦ placed.active_iff h
  case done_before =>
    intro i j ha hj ho
    rw [placed.eq_frontier ha] at hj
    exact placed.stateAt?_of_lt ho hj
  case ready_after =>
    intro i j ha hj ho
    rw [placed.eq_frontier ha] at hj
    exact placed.stateAt?_of_gt ho hj
  case done_first =>
    intro _ i j hij hoi hoj hd
    exact placed.stateAt?_of_lt hoi (Nat.lt_trans hij (placed.lt_of_stateAt? hoj hd))
  case done_outside =>
    intro i e item he ho hi
    exact (placed.standing i e item he hi).done_outside ho
  case consistent => exact h.consistent

/-- No item goes back from one list of items to a later one. -/
def Onward (items later : List ItemProgress) : Prop :=
  ∀ (place : Nat) (item : ItemProgress), items[place]? = some item →
    ∃ other, later[place]? = some other ∧ item.state.rank ≤ other.state.rank

/-- Items do not go back where nothing changes. -/
theorem Onward.refl (items : List ItemProgress) : Onward items items :=
  fun _ item hi ↦ ⟨item, hi, Nat.le_refl _⟩

/-- Items do not go back over two stretches in which they do not go back. -/
theorem Onward.trans {items later last : List ItemProgress} (h : Onward items later)
    (h' : Onward later last) : Onward items last := by
  intro place item hi
  obtain ⟨other, ho, hle⟩ := h place item hi
  obtain ⟨final, hf, hle'⟩ := h' place other ho
  exact ⟨final, hf, Nat.le_trans hle hle'⟩

/-- Items do not go back when the first one and the rest do not. -/
theorem Onward.cons {item other : ItemProgress} {items later : List ItemProgress}
    (first : item.state.rank ≤ other.state.rank) (rest : Onward items later) :
    Onward (item :: items) (other :: later) := by
  intro place current hc
  cases place with
  | zero =>
    cases hc
    exact ⟨other, rfl, first⟩
  | succ place => exact rest place current hc

private theorem onward_set {items : List ItemProgress} {place : Nat} {item other : ItemProgress}
    (hi : items[place]? = some item) (hle : item.state.rank ≤ other.state.rank) :
    Onward items (items.set place other) := by
  intro i current hc
  by_cases hp : place = i
  · subst hp
    have hlt := (List.getElem?_eq_some_iff.mp hi).1
    rw [hi] at hc
    cases hc
    exact ⟨other, by simp [hlt], hle⟩
  · exact ⟨current, by simpa [List.getElem?_set, hp] using hc, Nat.le_refl _⟩

private theorem rank_activate (item : ItemProgress) (length : Nat) (h : item.state = .ready) :
    item.state.rank ≤ (item.activate length).state.rank := by
  rw [h]
  unfold ItemProgress.activate
  split <;> simp [LoadState.rank]

private theorem onward_pass {ε σ : Type} (measure : String → EStateM ε σ Nat)
    (items : List ItemProgress) (world : σ) : Onward items (pass measure items world).items := by
  induction items generalizing world with
  | nil => exact .refl []
  | cons item items ih =>
    by_cases hr : item.state = .ready
    · cases hm : measure item.id world with
      | error fault after =>
        rw [pass_cons_of_error measure hr hm]
        exact .refl _
      | ok length after =>
        cases hi : item.isInstant length with
        | true =>
          rw [pass_cons_of_instant measure hr hm hi]
          exact .cons (rank_activate item length hr) (ih after)
        | false =>
          rw [pass_cons_of_slow measure hr hm hi]
          exact .cons (rank_activate item length hr) (.refl items)
    · rw [pass_cons_of_not_ready measure hr]
      exact .cons (Nat.le_refl _) (ih world)

/-- No item goes back in an operation. -/
theorem onward_step (run : ScreenRun) (op : RevealStep) :
    Onward run.items (run.step op).items := by
  -- ticking and finishing put one item in the place of another that is done or as far along
  have replace : ∀ (place : Nat) (item other : ItemProgress),
      run.items[place]? = some item → other.state = .done ∨ other.state = item.state →
      Onward run.items (run.items.set place other) := by
    intro place item other hi hs
    refine onward_set hi ?_
    rcases hs with hs | hs
    · exact hs ▸ item.state.rank_le_done
    · exact hs ▸ Nat.le_refl _
  cases op with
  | advance measure world =>
    cases ha : run.active with
    | some place => simpa only [step, advance_of_active measure ha] using .refl _
    | none =>
      simp only [step, advance_of_idle measure ha]
      exact onward_pass measure run.items world
  | tick elapsed =>
    cases ha : run.active with
    | none => simpa only [step, tick_of_idle ha] using .refl _
    | some place =>
      cases hi : run.items[place]? with
      | none => simpa [step, tick, active?, ha, hi] using .refl _
      | some item =>
        have := replace place item (item.tick elapsed) hi (by
          rw [ItemProgress.state_tick]
          split <;> simp)
        simp only [step, tick_of_active ha hi]
        split <;> exact this
  | finish =>
    cases ha : run.active with
    | none => simpa only [step, finishActive_of_idle ha] using .refl _
    | some place =>
      cases hi : run.items[place]? with
      | none => simpa [step, finishActive, active?, ha, hi] using .refl _
      | some item =>
        simp only [step, finishActive_of_active ha hi]
        exact replace place item item.finish hi (.inl rfl)

/-- No item goes back in several operations. -/
theorem onward_stepAll (run : ScreenRun) (steps : List RevealStep) :
    Onward run.items (run.stepAll steps).items :=
  List.foldlRecOn (motive := fun later ↦ Onward run.items later.items) steps step (.refl _)
    fun later h op _ ↦ h.trans (onward_step later op)

/-- An advance that succeeds leaves an item active or every item done. -/
theorem active_or_done_of_advance {entries : List RevealEntry} {run : ScreenRun}
    (h : Staged entries run.items run.active) {ε σ : Type} (measure : String → EStateM ε σ Nat)
    (world : σ) {events : List LifecycleEvent} (ok : (run.advance measure world).1 = .ok events) :
    (∃ item ∈ (run.advance measure world).2.1.items, item.state = .active) ∨
      (run.advance measure world).2.1.isDone = true := by
  have later : Staged entries (run.advance measure world).2.1.items
      (run.advance measure world).2.1.active := staged_step h (.advance measure world)
  cases ha : (run.advance measure world).2.1.active with
  | some place =>
    obtain ⟨_, item, hi, current, -⟩ := later.exists_revealing ha
    exact .inl ⟨item, List.mem_of_getElem? hi, current.state_eq⟩
  | none =>
    cases hr : run.active with
    | some place =>
      rw [advance_of_active measure hr] at ha
      rw [hr] at ha
      cases ha
    | none =>
      rw [advance_of_idle measure hr] at ok ha ⊢
      have hd := done_of_pass_eq_ok measure (h.ready_or_done hr) ok ha
      exact .inr (List.all_eq_true.mpr fun item hm ↦ by simp [hd item hm])

/-- After any operations on a reveal it is in order, no item goes back in whatever comes next, and
an advance that succeeds leaves an item active or every item done. -/
theorem sequenced_stepAll (screen : String) (entries : List RevealEntry)
    (steps : List RevealStep) :
    let run := (start screen entries).stepAll steps
    Sequenced entries run ∧
      (∀ more, Onward run.items ((start screen entries).stepAll (steps ++ more)).items) ∧
      ∀ {ε σ : Type} (measure : String → EStateM ε σ Nat) (world : σ)
        (events : List LifecycleEvent), (run.advance measure world).1 = .ok events →
        (∃ item ∈ (run.advance measure world).2.1.items, item.state = .active) ∨
          (run.advance measure world).2.1.isDone = true := by
  intro run
  have h := staged_stepAll screen entries steps
  refine ⟨h.sequenced, fun more ↦ ?_, fun measure world _ ok ↦ ?_⟩
  · have hs : (start screen entries).stepAll (steps ++ more) = run.stepAll more :=
      List.foldl_append
    exact hs ▸ onward_stepAll run more
  · exact active_or_done_of_advance h measure world ok

end Teletype.ScreenRun
