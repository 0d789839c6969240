import Mathlib.Data.List.Forall2
import Teletype.Proofs.Reveal.Sequence
/-!
# The log of a reveal

All the events of a reveal together, from its start on. They open with what every item is at the
start, and then tell of the items of the sequence one after another, each in a block of its own that
begins when the item becomes active and ends when it is done. Whatever is done in whatever order,
the log is a part from the front of such a full log, and it is a full log when everything is done.
-/

namespace Teletype

/-- An operation whose measure never fails and gives lengths that belong to the ids. -/
def RevealStep.Measures (p : String → Nat → Prop) : RevealStep → Prop
  | .advance measure _ =>
    ∀ id world, ∃ length after, measure id world = .ok length after ∧ p id length
  | .tick _ | .finish => True

/-- Whether an event says that an item is done. -/
def LifecycleEvent.isEnd : LifecycleEvent → Bool
  | done _ => true
  | ready _ | activated _ | revealed .. => false

/-- All that happens to an item of some length from when it becomes active until it is done: more
and more of it is shown, never more than there is, and all of it at last. -/
def IsBlock (id : String) (length : Nat) (events : List LifecycleEvent) : Prop :=
  ∃ counts : List Nat, events = .activated id :: counts.map (.revealed id) ++ [.done id] ∧
    counts.Pairwise (· ≤ ·) ∧ (∀ count ∈ counts, count ≤ length) ∧
    (0 < length → counts.getLast? = some length)

/-- Blocks of the items of the sequence one after another, with the length of every item. Items
outside of the sequence have no length and no block. -/
inductive Blocks (p : String → Nat → Prop) :
    List RevealEntry → List Nat → List LifecycleEvent → Prop
  | nil : Blocks p [] [] []
  | outside {e : RevealEntry} {entries : List RevealEntry} {lengths : List Nat}
    {events : List LifecycleEvent} (outside : e.onLoad = false)
    (rest : Blocks p entries lengths events) : Blocks p (e :: entries) (0 :: lengths) events
  | block {e : RevealEntry} {entries : List RevealEntry} {length : Nat} {lengths : List Nat}
    {block events : List LifecycleEvent} (onLoad : e.onLoad = true) (measured : p e.id length)
    (own : IsBlock e.id length block) (rest : Blocks p entries lengths events) :
    Blocks p (e :: entries) (length :: lengths) (block ++ events)

/-- A log of a whole reveal: every item is ready, in order and followed by its end when it is
outside of the sequence, and then come the blocks. -/
def IsFullLog (p : String → Nat → Prop) (entries : List RevealEntry) (lengths : List Nat)
    (log : List LifecycleEvent) : Prop :=
  ∃ blocks, Blocks p entries lengths blocks ∧
    log = (entries.flatMap fun e ↦ .ready e.id :: if e.onLoad then [] else [.done e.id]) ++ blocks

/-- Lengths of items, one for each. An item that is no longer ready has the length it was measured
with. -/
def Lengths (items : List ItemProgress) (lengths : List Nat) : Prop :=
  List.Forall₂ (fun item length ↦ item.state ≠ .ready → item.length = length) items lengths

/-- Of any item all may be shown as soon as it becomes active. -/
theorem isBlock_atOnce (id : String) (length : Nat) :
    IsBlock id length [.activated id, .revealed id length, .done id] :=
  ⟨[length], rfl, List.pairwise_singleton _ _, by simp, by simp⟩

private theorem countP_isEnd_counts (id : String) (counts : List Nat) :
    (.activated id :: counts.map (.revealed id)).countP LifecycleEvent.isEnd = 0 := by
  induction counts with
  | nil => rfl
  | cons count counts ih => exact ih

/-- A block has one end. -/
theorem IsBlock.countP_isEnd {id : String} {length : Nat} {events : List LifecycleEvent}
    (h : IsBlock id length events) : events.countP LifecycleEvent.isEnd = 1 := by
  obtain ⟨counts, rfl, -⟩ := h
  rw [List.countP_append, countP_isEnd_counts]
  rfl

/-- Blocks have one end for every item of the sequence. -/
theorem Blocks.countP_isEnd {p : String → Nat → Prop} {entries : List RevealEntry}
    {lengths : List Nat} {events : List LifecycleEvent} (h : Blocks p entries lengths events) :
    events.countP LifecycleEvent.isEnd = entries.countP RevealEntry.onLoad := by
  induction h with
  | nil => rfl
  | outside hout rest ih => rw [ih, List.countP_cons_of_neg (by simp [hout])]
  | block onLoad measured own rest ih =>
    rw [List.countP_append, own.countP_isEnd, ih, List.countP_cons_of_pos onLoad, Nat.add_comm]

private theorem revealCount_mono {earlier later : Duration} (h : earlier.nanos ≤ later.nanos)
    (length : Nat) (speed : Option Nat) :
    revealCount earlier length speed ≤ revealCount later length speed := by
  unfold revealCount
  split
  · have hm : earlier.millis ≤ later.millis := Nat.div_le_div_right h
    exact Nat.le_min.mpr ⟨Nat.le_trans (Nat.min_le_left _ _) (Nat.div_le_div_right hm),
      Nat.min_le_right _ _⟩
  · exact Nat.le_refl _

private theorem revealCount_zero {speed : Option Nat} (h : 0 < speed.getD 0) (length : Nat) :
    revealCount .zero length speed = 0 := by
  match speed with
  | none | some 0 => exact absurd h (Nat.lt_irrefl 0)
  | some (delay + 1) => simp [revealCount, Duration.millis, Duration.zero]

/-- An item that becomes active and is instant has its block at once. -/
theorem ItemProgress.isBlock_activationEvents {item : ItemProgress} {length : Nat}
    (instant : item.isInstant length = true) :
    IsBlock item.id length (item.activationEvents length) := by
  unfold activationEvents
  rw [if_pos instant]
  by_cases h : length = 0
  · exact ⟨[], by simp [h]⟩
  · exact ⟨[length], by simp [h]⟩

/-- An item is being revealed and some counts have been shown of it, none of them more than is shown
now. Its time has not gone beyond the greatest span, where it would stop. -/
structure Counted (p : String → Nat → Prop) (e : RevealEntry) (item : ItemProgress)
    (counts : List Nat) : Prop where
  current : e.Revealing item
  measured : p e.id item.length
  elapsed_le : item.elapsed.nanos ≤ Duration.most.nanos
  revealed_eq : item.revealed = revealCount item.elapsed item.length item.speed
  sorted : counts.Pairwise (· ≤ ·)
  count_le : ∀ count ∈ counts, count ≤ item.revealed

namespace Counted

variable {p : String → Nat → Prop} {e : RevealEntry} {item : ItemProgress} {counts : List Nat}

/-- An item that becomes active and needs time has no counts yet. -/
theorem activate {length : Nat} (onLoad : e.onLoad = true)
    (slow : e.progress.isInstant length = false) (measured : p e.id length) :
    Counted p e (e.progress.activate length) [] := by
  have current := RevealEntry.revealing_activate onLoad slow
  have hact : e.progress.activate length = { e.progress with state := .active, length } := by
    simp only [ItemProgress.activate, slow, Bool.false_eq_true, ↓reduceIte]
  constructor
  case current => exact current
  case measured => simpa only [hact] using measured
  case elapsed_le =>
    rw [hact]
    exact Nat.zero_le _
  case revealed_eq =>
    rw [hact] at current ⊢
    exact (revealCount_zero current.speed_pos length).symm
  case sorted => exact .nil
  case count_le => exact List.forall_mem_nil _

/-- What has been shown of an item makes its block with all of it. -/
theorem isBlock (h : Counted p e item counts) :
    IsBlock e.id item.length
      (.activated e.id :: counts.map (.revealed e.id) ++
        [.revealed e.id item.length, .done e.id]) := by
  have hle : ∀ count ∈ counts, count ≤ item.length := fun count hm ↦
    Nat.le_trans (h.count_le count hm) (Nat.le_of_lt h.current.revealed_lt)
  refine ⟨counts ++ [item.length], by simp, ?_, ?_, by simp⟩
  · exact List.pairwise_append.mpr ⟨h.sorted, List.pairwise_singleton _ _, by simpa using hle⟩
  · simpa [or_imp, forall_and] using hle

/-- Time shows no less of an item than before. -/
theorem revealed_le_tick (h : Counted p e item counts) (elapsed : Duration) :
    item.revealed ≤ (item.tick elapsed).revealed := by
  have later : item.elapsed.nanos ≤ (item.elapsed.add elapsed).nanos :=
    Nat.le_min.mpr ⟨Nat.le_add_right _ _, h.elapsed_le⟩
  rw [h.revealed_eq]
  exact revealCount_mono later _ _

/-- Time that does not complete an item adds a count. -/
theorem tick (h : Counted p e item counts) {elapsed : Duration}
    (going : (item.tick elapsed).state ≠ .done) :
    Counted p e (item.tick elapsed) (counts ++ [(item.tick elapsed).revealed]) := by
  have hle : ∀ count ∈ counts, count ≤ (item.tick elapsed).revealed := fun count hm ↦
    Nat.le_trans (h.count_le count hm) (h.revealed_le_tick elapsed)
  constructor
  case current => exact h.current.revealing_tick going
  case measured => exact h.measured
  case elapsed_le => exact Nat.min_le_right _ _
  case revealed_eq => rfl
  case sorted =>
    exact List.pairwise_append.mpr ⟨h.sorted, List.pairwise_singleton _ _, by simpa using hle⟩
  case count_le => simpa [or_imp, forall_and] using hle

end Counted

namespace ScreenRun

/-- What happens in an operation. -/
def stepEvents (run : ScreenRun) : RevealStep → List LifecycleEvent
  | .advance measure world =>
    match (run.advance measure world).1 with
    | .ok events => events
    | .error _ => []
  | .tick elapsed => (run.tick elapsed).2
  | .finish => run.finishActive.2

/-- What happens in several operations. -/
def stepAllEvents (run : ScreenRun) : List RevealStep → List LifecycleEvent
  | [] => []
  | op :: steps => run.stepEvents op ++ (run.step op).stepAllEvents steps

/-- The shape of a reveal together with its log behind the start: whole blocks of the finished
items of the sequence, then the beginning of one when an item is active. -/
inductive Chronicle (p : String → Nat → Prop) :
    List RevealEntry → List ItemProgress → Option Nat → List LifecycleEvent → Prop
  | waiting (entries : List RevealEntry) :
    Chronicle p entries (entries.map RevealEntry.progress) none []
  | revealing {e : RevealEntry} {item : ItemProgress} {counts : List Nat}
    (entries : List RevealEntry) (current : Counted p e item counts) :
    Chronicle p (e :: entries) (item :: entries.map RevealEntry.progress) (some 0)
      (.activated e.id :: counts.map (.revealed e.id))
  | outside {e : RevealEntry} {entries : List RevealEntry} {items : List ItemProgress}
    {active : Option Nat} {log : List LifecycleEvent} (outside : e.onLoad = false)
    (rest : Chronicle p entries items active log) :
    Chronicle p (e :: entries) (e.progress :: items) (active.map (· + 1)) log
  | finished {e : RevealEntry} {item : ItemProgress} {entries : List RevealEntry}
    {items : List ItemProgress} {active : Option Nat} {block log : List LifecycleEvent}
    (onLoad : e.onLoad = true) (done : e.Finished item) (measured : p e.id item.length)
    (own : IsBlock e.id item.length block) (rest : Chronicle p entries items active log) :
    Chronicle p (e :: entries) (item :: items) (active.map (· + 1)) (block ++ log)

namespace Chronicle

variable {p : String → Nat → Prop} {entries : List RevealEntry} {items : List ItemProgress}
  {active : Option Nat} {log : List LifecycleEvent}

/-- At the start everything waits. -/
theorem start (screen : String) (entries : List RevealEntry) :
    Chronicle p entries (start screen entries).items (start screen entries).active [] :=
  .waiting entries

/-- The active place holds an item of which some counts have been shown. What goes on there, or
ends there, goes on with the log. -/
theorem exists_counted (h : Chronicle p entries items active log) {place : Nat}
    (ha : active = some place) :
    ∃ e item counts, items[place]? = some item ∧ Counted p e item counts ∧
      (∀ other, e.Finished other → other.length = item.length →
        Chronicle p entries (items.set place other) none
          (log ++ [.revealed item.id item.length, .done item.id])) ∧
      ∀ other count, Counted p e other (counts ++ [count]) →
        Chronicle p entries (items.set place other) (some place)
          (log ++ [.revealed item.id count]) := by
  induction h generalizing place with
  | waiting => cases ha
  | @revealing e item counts entries current =>
    cases ha
    refine ⟨e, item, counts, rfl, current, fun other done same ↦ ?_, fun other count going ↦ ?_⟩
    · have own := current.isBlock
      rw [← same] at own
      have whole := Chronicle.finished current.current.onLoad_eq done
        (same ▸ current.measured) own (.waiting entries)
      rw [List.append_nil, same] at whole
      rw [current.current.id_eq]
      exact whole
    · have more := Chronicle.revealing entries going
      rw [List.map_append] at more
      rw [current.current.id_eq]
      exact more
  | outside hout rest ih =>
    obtain ⟨inner, hinner, rfl⟩ := Option.map_eq_some_iff.mp ha
    obtain ⟨e, item, counts, hitem, hcurrent, hdone, hgoing⟩ := ih hinner
    exact ⟨e, item, counts, hitem, hcurrent,
      fun other done same ↦ .outside hout (hdone other done same),
      fun other count going ↦ .outside hout (hgoing other count going)⟩
  | finished onLoad done measured own rest ih =>
    obtain ⟨inner, hinner, rfl⟩ := Option.map_eq_some_iff.mp ha
    obtain ⟨e, item, counts, hitem, hcurrent, hdone, hgoing⟩ := ih hinner
    refine ⟨e, item, counts, hitem, hcurrent, fun other last same ↦ ?_, fun other count going ↦ ?_⟩
    · rw [List.append_assoc]
      exact .finished onLoad done measured own (hdone other last same)
    · rw [List.append_assoc]
      exact .finished onLoad done measured own (hgoing other count going)

section Pass

variable {ε σ : Type} {measure : String → EStateM ε σ Nat}
  (measures : ∀ id world, ∃ length after, measure id world = .ok length after ∧ p id length)

include measures

private theorem pass_waiting (entries : List RevealEntry) (world : σ) :
    ∃ events, (pass measure (entries.map RevealEntry.progress) world).outcome = .ok events ∧
      Chronicle p entries (pass measure (entries.map RevealEntry.progress) world).items
        (pass measure (entries.map RevealEntry.progress) world).active events := by
  induction entries generalizing world with
  | nil => exact ⟨[], rfl, .waiting []⟩
  | cons e entries ih =>
    rw [List.map_cons]
    cases he : e.onLoad with
    | false =>
      obtain ⟨events, hok, later⟩ := ih world
      rw [pass_cons_of_not_ready measure (by simp [(RevealEntry.finished_progress he).state_eq])]
      exact ⟨events, Passage.outcome_after_of_ok hok _ _, .outside he later⟩
    | true =>
      have hr := RevealEntry.state_progress_of_onLoad he
      obtain ⟨length, after, hm, hp⟩ := measures e.progress.id world
      cases hi : e.progress.isInstant length with
      | true =>
        obtain ⟨events, hok, later⟩ := ih after
        rw [pass_cons_of_instant measure hr hm hi]
        have done := RevealEntry.finished_activate he hi
        have own := ItemProgress.isBlock_activationEvents hi
        have hl : (e.progress.activate length).length = length := by
          simp [ItemProgress.activate, hi]
        exact ⟨e.progress.activationEvents length ++ events, Passage.outcome_after_of_ok hok _ _,
          .finished he done (by rwa [hl]) (by rwa [hl]) later⟩
      | false =>
        rw [pass_cons_of_slow measure hr hm hi]
        refine ⟨_, rfl, ?_⟩
        rw [ItemProgress.activationEvents, hi]
        exact .revealing entries (Counted.activate he hi hp)

/-- A passage with a measure that never fails succeeds and goes on with the log. -/
theorem pass (h : Chronicle p entries items active log) (idle : active = none) (world : σ) :
    ∃ events, (ScreenRun.pass measure items world).outcome = .ok events ∧
      Chronicle p entries (ScreenRun.pass measure items world).items
        (ScreenRun.pass measure items world).active (log ++ events) := by
  induction h with
  | waiting entries => exact pass_waiting measures entries world
  | revealing => cases idle
  | outside hout rest ih =>
    obtain ⟨events, hok, later⟩ := ih (Option.map_eq_none_iff.mp idle)
    rw [pass_cons_of_not_ready measure (by simp [(RevealEntry.finished_progress hout).state_eq])]
    exact ⟨events, Passage.outcome_after_of_ok hok _ _, .outside hout later⟩
  | finished onLoad done measured own rest ih =>
    obtain ⟨events, hok, later⟩ := ih (Option.map_eq_none_iff.mp idle)
    rw [pass_cons_of_not_ready measure (by simp [done.state_eq])]
    refine ⟨events, Passage.outcome_after_of_ok hok _ _, ?_⟩
    rw [List.append_assoc]
    exact .finished onLoad done measured own later

end Pass

/-- Every operation goes on with the log. -/
theorem step {run : ScreenRun} (h : Chronicle p entries run.items run.active log)
    {op : RevealStep} (measures : op.Measures p) :
    Chronicle p entries (run.step op).items (run.step op).active (log ++ run.stepEvents op) := by
  cases ha : run.active with
  | none =>
    cases op with
    | advance measure world =>
      obtain ⟨events, hok, later⟩ := h.pass measures ha world
      simpa only [ScreenRun.step, stepEvents, advance_of_idle measure ha, hok] using later
    | tick elapsed =>
      simpa only [ScreenRun.step, stepEvents, tick_of_idle ha, List.append_nil] using h
    | finish =>
      simpa only [ScreenRun.step, stepEvents, finishActive_of_idle ha, List.append_nil] using h
  | some place =>
    obtain ⟨e, item, counts, hitem, hcurrent, hdone, hgoing⟩ := h.exists_counted ha
    cases op with
    | advance measure world =>
      simpa only [ScreenRun.step, stepEvents, advance_of_active measure ha, List.append_nil]
        using h
    | tick elapsed =>
      simp only [ScreenRun.step, stepEvents, tick_of_active ha hitem]
      split
      · next hd =>
        have done := hcurrent.current.finished_tick hd
        have all : (item.tick elapsed).revealed = item.length := done.revealed_eq
        rw [all]
        exact hdone _ done rfl
      · next hd => simpa only [ha] using hgoing _ _ (hcurrent.tick hd)
    | finish =>
      simp only [ScreenRun.step, stepEvents, finishActive_of_active ha hitem]
      exact hdone _ hcurrent.current.finished_finish rfl

/-- Several operations go on with the log. -/
theorem stepAll {run : ScreenRun} (h : Chronicle p entries run.items run.active log)
    {steps : List RevealStep} (measures : ∀ op ∈ steps, op.Measures p) :
    Chronicle p entries (run.stepAll steps).items (run.stepAll steps).active
      (log ++ run.stepAllEvents steps) := by
  induction steps generalizing run log with
  | nil =>
    rw [stepAllEvents, List.append_nil]
    exact h
  | cons op steps ih =>
    obtain ⟨first, rest⟩ := List.forall_mem_cons.mp measures
    rw [stepAllEvents, ← List.append_assoc]
    exact ih (h.step first) rest

/-- A reveal has a full log in which the measured items have their lengths, and its log is the
beginning of it. -/
theorem exists_blocks (h : Chronicle p entries items active log)
    (total : ∀ id, ∃ length, p id length) :
    ∃ lengths blocks, Blocks p entries lengths blocks ∧ log <+: blocks ∧ Lengths items lengths := by
  have waiting : ∀ entries : List RevealEntry, ∃ lengths blocks,
      Blocks p entries lengths blocks ∧ Lengths (entries.map RevealEntry.progress) lengths := by
    intro entries
    induction entries with
    | nil => exact ⟨[], [], .nil, .nil⟩
    | cons e entries ih =>
      obtain ⟨lengths, blocks, hblocks, hlengths⟩ := ih
      cases he : e.onLoad with
      | false => exact ⟨0 :: lengths, blocks, .outside he hblocks, .cons (fun _ ↦ rfl) hlengths⟩
      | true =>
        obtain ⟨length, hp⟩ := total e.id
        exact ⟨length :: lengths, _, .block he hp (isBlock_atOnce e.id length) hblocks,
          .cons (absurd (RevealEntry.state_progress_of_onLoad he)) hlengths⟩
  induction h with
  | waiting entries =>
    obtain ⟨lengths, blocks, hblocks, hlengths⟩ := waiting entries
    exact ⟨lengths, blocks, hblocks, List.nil_prefix, hlengths⟩
  | @revealing e item counts entries current =>
    obtain ⟨lengths, blocks, hblocks, hlengths⟩ := waiting entries
    refine ⟨item.length :: lengths, _, .block current.current.onLoad_eq current.measured
      current.isBlock hblocks, ?_, .cons (fun _ ↦ rfl) hlengths⟩
    rw [List.append_assoc]
    exact List.prefix_append _ _
  | outside hout rest ih =>
    obtain ⟨lengths, blocks, hblocks, hlog, hlengths⟩ := ih
    exact ⟨0 :: lengths, blocks, .outside hout hblocks, hlog, .cons (fun _ ↦ rfl) hlengths⟩
  | @finished e item _ _ _ block _ onLoad done measured own rest ih =>
    obtain ⟨lengths, blocks, hblocks, hlog, hlengths⟩ := ih
    exact ⟨item.length :: lengths, block ++ blocks, .block onLoad measured own hblocks,
      (List.prefix_append_right_inj block).mpr hlog, .cons (fun _ ↦ rfl) hlengths⟩

/-- When every item is done the log is all blocks. -/
theorem blocks_of_done (h : Chronicle p entries items active log)
    (done : ∀ item ∈ items, item.state = .done) : ∃ lengths, Blocks p entries lengths log := by
  induction h with
  | waiting entries =>
    induction entries with
    | nil => exact ⟨[], .nil⟩
    | cons e entries ih =>
      obtain ⟨first, rest⟩ := List.forall_mem_cons.mp done
      obtain ⟨lengths, hblocks⟩ := ih rest
      cases he : e.onLoad with
      | false => exact ⟨0 :: lengths, .outside he hblocks⟩
      | true =>
        rw [RevealEntry.state_progress_of_onLoad he] at first
        cases first
  | revealing entries current =>
    have := done _ List.mem_cons_self
    rw [current.current.state_eq] at this
    cases this
  | outside hout rest ih =>
    obtain ⟨lengths, hblocks⟩ := ih (List.forall_mem_cons.mp done).2
    exact ⟨0 :: lengths, .outside hout hblocks⟩
  | finished onLoad _ measured own rest ih =>
    obtain ⟨lengths, hblocks⟩ := ih (List.forall_mem_cons.mp done).2
    exact ⟨_, .block onLoad measured own hblocks⟩

/-- While an item is not done the log has fewer ends than the sequence has items. -/
theorem countP_isEnd_lt (h : Chronicle p entries items active log) {item : ItemProgress}
    (hm : item ∈ items) (going : item.state ≠ .done) :
    log.countP LifecycleEvent.isEnd < entries.countP RevealEntry.onLoad := by
  induction h with
  | waiting entries =>
    obtain ⟨e, he, rfl⟩ := List.mem_map.mp hm
    have onLoad : e.onLoad = true := by
      simpa [RevealEntry.progress] using going
    exact List.countP_pos_iff.mpr ⟨e, he, onLoad⟩
  | revealing entries current =>
    rw [countP_isEnd_counts, List.countP_cons_of_pos current.current.onLoad_eq]
    exact Nat.succ_pos _
  | outside hout rest ih =>
    rw [List.countP_cons_of_neg (by simp [hout])]
    rcases List.mem_cons.mp hm with rfl | hm
    · exact absurd (RevealEntry.finished_progress hout).state_eq going
    · exact ih hm
  | finished onLoad done measured own rest ih =>
    rw [List.countP_append, own.countP_isEnd, List.countP_cons_of_pos onLoad, Nat.add_comm]
    rcases List.mem_cons.mp hm with rfl | hm
    · exact absurd done.state_eq going
    · exact Nat.succ_lt_succ (ih hm)

end Chronicle

/-- Whatever is done after the start of a reveal, with measures that do not fail, all its events
together are the beginning of a full log in which the measured items have their lengths; and they
are a full log exactly when every item is done. -/
theorem log_in_order {p : String → Nat → Prop} (total : ∀ id, ∃ length, p id length)
    (screen : String) (entries : List RevealEntry) {steps : List RevealStep}
    (measures : ∀ op ∈ steps, op.Measures p) :
    let run := (start screen entries).stepAll steps
    let log := startEvents entries ++ (start screen entries).stepAllEvents steps
    (∃ lengths full, IsFullLog p entries lengths full ∧ log <+: full ∧
      Lengths run.items lengths) ∧
      (run.isDone = true ↔ ∃ lengths, IsFullLog p entries lengths log) := by
  intro run log
  have h : Chronicle p entries run.items run.active ((start screen entries).stepAllEvents steps) :=
    (Chronicle.start screen entries).stepAll measures
  constructor
  · obtain ⟨lengths, blocks, hblocks, hlog, hlengths⟩ := h.exists_blocks total
    exact ⟨lengths, _, ⟨blocks, hblocks, rfl⟩,
      (List.prefix_append_right_inj (startEvents entries)).mpr hlog, hlengths⟩
  constructor
  · intro done
    have hd : ∀ item ∈ run.items, item.state = .done := by
      simpa [isDone] using done
    obtain ⟨lengths, hblocks⟩ := h.blocks_of_done hd
    exact ⟨lengths, _, hblocks, rfl⟩
  · rintro ⟨lengths, blocks, hblocks, hlog⟩
    have same : (start screen entries).stepAllEvents steps = blocks :=
      List.append_cancel_left hlog
    refine List.all_eq_true.mpr fun item hm ↦ ?_
    by_contra going
    have := h.countP_isEnd_lt hm (by simpa using going)
    rw [same, hblocks.countP_isEnd] at this
    exact Nat.lt_irrefl _ this

/-- A title shown letter by letter, a note outside of the sequence and a body shown at once. -/
def titleAndBody : List RevealEntry :=
  [⟨"title", true, some 10⟩, ⟨"note", false, none⟩, ⟨"body", true, none⟩]

/-- The title is shown in two ticks, and then the body at once. -/
def titleAndBodySteps : List RevealStep :=
  let advance : RevealStep :=
    .advance (ε := Empty) (σ := Unit) (fun id world ↦ .ok id.length world) ()
  [advance, .tick (.ofMillis 25), advance, .tick (.ofMillis 25), advance]

/-- The log of the title and the body is the full one. -/
theorem log_in_order_titleAndBody :
    let run := (start "home" titleAndBody).stepAll titleAndBodySteps
    let log := startEvents titleAndBody ++
      (start "home" titleAndBody).stepAllEvents titleAndBodySteps
    log = [.ready "title", .ready "note", .done "note", .ready "body",
        .activated "title", .revealed "title" 2, .revealed "title" 5, .done "title",
        .activated "body", .revealed "body" 4, .done "body"] ∧
      run.isDone = true ∧
      ∃ lengths, IsFullLog (fun id length ↦ id.length = length) titleAndBody lengths log := by
  have measures : ∀ op ∈ titleAndBodySteps,
      op.Measures (fun id length ↦ id.length = length) := by
    simp [titleAndBodySteps, RevealStep.Measures]
  have done : ((start "home" titleAndBody).stepAll titleAndBodySteps).isDone = true := by decide
  exact ⟨by decide, done,
    (log_in_order (fun id ↦ ⟨id.length, rfl⟩) "home" titleAndBody measures).2.mp done⟩

end ScreenRun

end Teletype
