import Teletype.Proofs.Reveal.Report
import Teletype.Session.Play
/-!
# What is ahead of a reveal

A reveal comes to its end when nothing fails. Finishing the active item and advancing leaves fewer
items that are not done, except once when nothing was active. Letting time pass and advancing does
so too, or else leaves less of the time that the active item still needs, as long as that time can
be counted at all.
-/

namespace Teletype

/-- The time that an item needs in all, in nanoseconds. -/
def ItemProgress.span (item : ItemProgress) : Nat := item.length * item.speed.getD 0 * 1000000

/-- An item whose length and delay both fit into 32 bits. -/
def ItemProgress.IsCountable (item : ItemProgress) : Prop :=
  item.length < 2 ^ 32 ∧ item.speed.getD 0 < 2 ^ 32

/-- Spans of time reach as far as the time that such an item needs. -/
theorem ItemProgress.IsCountable.span_le {item : ItemProgress} (h : item.IsCountable) :
    item.span ≤ Duration.most.nanos := by
  have product : item.length * item.speed.getD 0 ≤ 2 ^ 32 * 2 ^ 32 :=
    Nat.mul_le_mul (Nat.le_of_lt h.1) (Nat.le_of_lt h.2)
  simp only [span, Duration.most]
  omega

/-- Time that does not complete an item has passed in full, and has not come to what the item
needs. -/
theorem ItemProgress.elapsed_tick_of_going {item : ItemProgress} (positive : 0 < item.speed.getD 0)
    (countable : item.IsCountable) {elapsed : Duration}
    (going : ¬ item.length ≤ (item.tick elapsed).revealed) :
    (item.tick elapsed).elapsed.nanos = item.elapsed.nanos + elapsed.nanos ∧
      item.elapsed.nanos + elapsed.nanos < item.span := by
  obtain ⟨delay, speed⟩ : ∃ delay, item.speed = some (delay + 1) := by
    cases hs : item.speed with
    | none => simp [hs] at positive
    | some delay =>
      rw [hs, Option.getD_some] at positive
      exact ⟨delay - 1, by rw [Nat.sub_add_cancel positive]⟩
  have within := countable.span_le
  have later : (item.tick elapsed).elapsed = item.elapsed.add elapsed := rfl
  have shown : (item.tick elapsed).revealed =
      min ((item.elapsed.add elapsed).millis / (delay + 1)) item.length := by
    rw [tick, speed, revealCount]
  -- both quotients are below a bound exactly when what is divided is below a product
  simp only [shown, Nat.le_min, Nat.le_refl, and_true, Nat.not_le, Duration.millis,
    Nat.div_lt_iff_lt_mul (Nat.succ_pos delay), Nat.div_lt_iff_lt_mul (by decide : 0 < 1000000)]
    at going
  have short : (item.elapsed.add elapsed).nanos < item.span := by
    simpa [span, speed] using going
  rw [later]
  simp only [Duration.add] at short ⊢
  omega

namespace ScreenRun

variable {entries : List RevealEntry} {run : ScreenRun} {place : Nat} {item : ItemProgress}

/-! ## Pending items -/

/-- Every item is done when none is pending. -/
theorem pending_eq_zero_iff : run.pending = 0 ↔ run.isDone = true := by
  simp [pending, isDone]

/-- An item that takes the place of a pending one leaves one pending item less when it is done. -/
theorem pending_set (hi : run.items[place]? = some item) (going : item.state ≠ .done)
    (other : ItemProgress) (active : Option Nat) :
    ({ run with items := run.items.set place other, active } : ScreenRun).pending +
      (if other.state = .done then 1 else 0) = run.pending := by
  obtain ⟨inside, rfl⟩ := List.getElem?_eq_some_iff.mp hi
  have some_pending : 0 < run.items.countP fun item ↦ item.state != .done :=
    List.countP_pos_iff.mpr ⟨_, List.getElem_mem inside, by simpa using going⟩
  by_cases done : other.state = .done <;>
    simp only [pending, List.countP_set inside, bne_iff_ne, ne_eq, going, not_false_eq_true,
      not_true_eq_false, ↓reduceIte, done] <;>
    omega

private theorem countP_pass_le {ε σ : Type} (measure : String → EStateM ε σ Nat)
    (items : List ItemProgress) (world : σ) :
    ((pass measure items world).items.countP fun item ↦ item.state != .done) ≤
      items.countP fun item ↦ item.state != .done := by
  induction items generalizing world with
  | nil => exact Nat.le_refl _
  | cons item items ih =>
    by_cases hr : item.state = .ready
    · cases hm : measure item.id world with
      | error fault after =>
        refine Nat.le_of_eq ?_
        rw [pass_cons_of_error measure hr hm]
      | ok length after =>
        cases hi : item.isInstant length with
        | true =>
          rw [pass_cons_of_instant measure hr hm hi]
          have := ih after
          simp only [Passage.after, ItemProgress.activate, hi, ↓reduceIte, List.countP_cons,
            bne_self_eq_false, Bool.false_eq_true]
          omega
        | false =>
          rw [pass_cons_of_slow measure hr hm hi]
          simp [ItemProgress.activate, hi, hr]
    · rw [pass_cons_of_not_ready measure hr]
      simp only [Passage.after, List.countP_cons]
      have := ih world
      omega

/-- An advance leaves no more items pending than there were. -/
theorem pending_advance_le {ε σ : Type} (measure : String → EStateM ε σ Nat) (run : ScreenRun)
    (world : σ) : (run.advance measure world).2.1.pending ≤ run.pending := by
  cases ha : run.active with
  | some place =>
    refine Nat.le_of_eq ?_
    rw [advance_of_active measure ha]
  | none =>
    rw [advance_of_idle measure ha]
    exact countP_pass_le measure run.items world

/-! ## Finishing -/

/-- How often a reveal has to be finished and advanced until it is done: once for each pending item,
and once more if no item is active. -/
def rounds (run : ScreenRun) : Nat :=
  if run.isDone then 0 else run.pending + if run.active.isNone then 1 else 0

/-- A reveal needs at most one round more than it has pending items. -/
theorem rounds_le (run : ScreenRun) : run.rounds ≤ run.pending + 1 := by
  unfold rounds
  cases run.isDone <;> cases run.active <;> simp

/-- A reveal that needs no rounds is done. -/
theorem isDone_of_rounds (h : run.rounds = 0) : run.isDone = true := by
  unfold rounds at h
  split at h
  · assumption
  · exact pending_eq_zero_iff.mp (by omega)

/-- At rest a reveal needs one round for each pending item. -/
theorem rounds_of_rests (rests : run.Rests) : run.rounds = run.pending := by
  unfold rounds
  split
  · next done => exact (pending_eq_zero_iff.mpr done).symm
  · next going =>
    have current : run.active ≠ none := fun idle ↦ going (rests idle)
    simp [current]

/-- Finishing the active item leaves one pending item less. -/
theorem pending_finishActive (staged : Staged entries run.items run.active) :
    run.finishActive.1.pending + (if run.active.isSome then 1 else 0) = run.pending := by
  cases ha : run.active with
  | none =>
    rw [finishActive_of_idle ha]
    rfl
  | some place =>
    obtain ⟨_, item, hi, current, -⟩ := staged.exists_revealing ha
    rw [finishActive_of_active ha hi]
    exact pending_set hi (by rw [current.state_eq]; nofun) item.finish none

/-- A round in which nothing fails leaves fewer rounds. -/
theorem rounds_lt_of_finish (staged : Staged entries run.items run.active)
    (going : run.isDone = false) {ε σ : Type} (measure : String → EStateM ε σ Nat) (world : σ)
    {events : List LifecycleEvent}
    (ok : (run.finishActive.1.advance measure world).1 = .ok events) :
    (run.finishActive.1.advance measure world).2.1.rounds < run.rounds := by
  have finished : Staged entries run.finishActive.1.items run.finishActive.1.active :=
    staged_step staged .finish
  have fewer := pending_finishActive staged
  have later := pending_advance_le measure run.finishActive.1 world
  rw [rounds_of_rests (rests_of_advance finished measure world ok), rounds, going]
  cases ha : run.active <;> simp [ha] at fewer ⊢ <;> omega

/-! ## Waiting -/

/-- The time that the active item still needs, in nanoseconds. -/
def timeLeft (run : ScreenRun) : Nat :=
  match run.active? with
  | some item => item.span - item.elapsed.nanos
  | none => 0

/-- What is ahead of a reveal: the items that are pending, the next of which may not be active yet,
and the time that the active one needs. -/
def ahead (run : ScreenRun) : Nat × Nat :=
  (2 * run.pending + if run.active.isNone then 1 else 0, run.timeLeft)

/-- Less is ahead: fewer items, or the same with less time. -/
abbrev IsCloser (later run : ScreenRun) : Prop := Prod.Lex (· < ·) (· < ·) later.ahead run.ahead

/-- What is ahead of a reveal cannot become less forever. -/
theorem wellFounded_isCloser : WellFounded IsCloser :=
  InvImage.wf ahead (Prod.lex Nat.lt_wfRel Nat.lt_wfRel).wf

/-- Less is ahead when the next item has become active, or the active one is done. -/
theorem isCloser_of_pending {later : ScreenRun} (rests : later.Rests) (going : run.pending ≠ 0)
    (fewer : later.pending + (if run.active.isSome then 1 else 0) ≤ run.pending) :
    later.IsCloser run := by
  refine Prod.lex_def.mpr (.inl ?_)
  simp only [ahead]
  cases hl : later.active with
  | none =>
    have done := pending_eq_zero_iff.mpr (rests hl)
    simp only [done, Option.isNone_none, ↓reduceIte]
    omega
  | some _ => cases ha : run.active <;> simp [ha] at fewer ⊢ <;> omega

/-- Less is ahead when time has passed that does not complete the active item. -/
theorem isCloser_of_going (staged : Staged entries run.items run.active)
    (ha : run.active = some place) (hi : run.items[place]? = some item)
    (countable : item.IsCountable) {elapsed : Duration} (passes : 0 < elapsed.nanos)
    (going : (item.tick elapsed).state ≠ .done) :
    ({ run with items := run.items.set place (item.tick elapsed) } : ScreenRun).IsCloser run := by
  have inside := (List.getElem?_eq_some_iff.mp hi).1
  obtain ⟨_, _, at_place, current, -⟩ := staged.exists_revealing ha
  cases hi.symm.trans at_place
  have short : ¬ item.length ≤ (item.tick elapsed).revealed := by
    intro long
    rw [ItemProgress.state_tick, if_pos long] at going
    exact going rfl
  obtain ⟨later, within⟩ := ItemProgress.elapsed_tick_of_going current.speed_pos countable short
  have same := pending_set hi (by rw [current.state_eq]; nofun) (item.tick elapsed) run.active
  rw [if_neg going, Nat.add_zero] at same
  have before : run.active? = some item := by simp [active?, ha, hi]
  have after : ({ run with items := run.items.set place (item.tick elapsed) } : ScreenRun).active? =
      some (item.tick elapsed) := by
    simp [active?, ha, inside]
  refine Prod.lex_def.mpr (.inr ⟨?_, ?_⟩)
  · simp only [ahead, same]
  · have span : (item.tick elapsed).span = item.span := rfl
    simp only [ahead, timeLeft, before, after, span, later]
    omega

private theorem active_of_pass_eq_nil {ε σ : Type} (measure : String → EStateM ε σ Nat)
    {items : List ItemProgress} {world : σ} (ok : (pass measure items world).outcome = .ok []) :
    (pass measure items world).active = none := by
  induction items generalizing world with
  | nil => rfl
  | cons item items ih =>
    by_cases hr : item.state = .ready
    · cases hm : measure item.id world with
      | error fault after =>
        rw [pass_cons_of_error measure hr hm] at ok
        cases ok
      | ok length after =>
        cases hi : item.isInstant length with
        | true =>
          rw [pass_cons_of_instant measure hr hm hi] at ok
          obtain ⟨_, -, split⟩ := Passage.exists_of_outcome_after ok
          cases split
        | false =>
          rw [pass_cons_of_slow measure hr hm hi] at ok
          cases ok
    · rw [pass_cons_of_not_ready measure hr] at ok ⊢
      obtain ⟨_, rest, rfl⟩ := Passage.exists_of_outcome_after ok
      exact Option.map_eq_none_iff.mpr (ih rest)

/-- Time that has passed without a failure has been told of, or the reveal is done. -/
theorem isDone_of_silence (staged : Staged entries run.items run.active) {elapsed : Duration}
    {ε σ : Type} (measure : String → EStateM ε σ Nat) (world : σ) {events : List LifecycleEvent}
    (ok : ((run.tick elapsed).1.advance measure world).1 = .ok events)
    (silent : (run.tick elapsed).2 ++ events = []) :
    ((run.tick elapsed).1.advance measure world).2.1.isDone = true := by
  obtain ⟨untold, rfl⟩ := List.append_eq_nil_iff.mp silent
  cases ha : run.active with
  | none =>
    rw [tick_of_idle ha] at ok ⊢
    refine rests_of_advance staged measure world ok ?_
    rw [advance_of_idle measure ha] at ok ⊢
    exact active_of_pass_eq_nil measure ok
  | some place =>
    obtain ⟨_, item, hi, -⟩ := staged.exists_revealing ha
    rw [tick_of_active ha hi] at untold
    split at untold <;> cases untold

/-- Time that has passed without a failure and has been told of brings the end of the reveal
closer. -/
theorem isCloser_of_tick (staged : Staged entries run.items run.active)
    (countable : ∀ item ∈ run.items, item.IsCountable) {elapsed : Duration}
    (passes : 0 < elapsed.nanos) {ε σ : Type} (measure : String → EStateM ε σ Nat) (world : σ)
    {events : List LifecycleEvent}
    (ok : ((run.tick elapsed).1.advance measure world).1 = .ok events)
    (told : (run.tick elapsed).2 ++ events ≠ []) :
    ((run.tick elapsed).1.advance measure world).2.1.IsCloser run := by
  have ticked : Staged entries (run.tick elapsed).1.items (run.tick elapsed).1.active :=
    staged_step staged (.tick elapsed)
  have rests := rests_of_advance ticked measure world ok
  have fewer := pending_advance_le measure (run.tick elapsed).1 world
  cases ha : run.active with
  | none =>
    rw [tick_of_idle ha] at ok told rests fewer ⊢
    have going : run.pending ≠ 0 := by
      intro none_pending
      have done := pending_eq_zero_iff.mp none_pending
      rw [outcome_advance_of_rests (fun _ ↦ done) measure world] at ok
      cases ok
      exact told rfl
    exact isCloser_of_pending rests going (by simpa [ha] using fewer)
  | some place =>
    obtain ⟨_, item, hi, current, -⟩ := staged.exists_revealing ha
    by_cases done : (item.tick elapsed).state = .done
    · have finished : (run.tick elapsed).1 =
          { run with items := run.items.set place (item.tick elapsed), active := none } := by
        rw [tick_of_active ha hi, if_pos done]
      have one := pending_set hi (by rw [current.state_eq]; nofun) (item.tick elapsed) none
      rw [if_pos done] at one
      rw [finished] at rests fewer ⊢
      refine isCloser_of_pending rests (by omega) ?_
      simp only [ha, Option.isSome_some, ↓reduceIte]
      omega
    · have goes : (run.tick elapsed).1 =
          { run with items := run.items.set place (item.tick elapsed) } := by
        rw [tick_of_active ha hi, if_neg done]
      have still : (run.tick elapsed).1.active = some place := goes ▸ ha
      rw [advance_of_active measure still, goes]
      exact isCloser_of_going staged ha hi (countable item (List.mem_of_getElem? hi)) passes done

end ScreenRun

end Teletype
