import Teletype.Proofs.Document.Delays
import Teletype.Proofs.Reveal.Ahead
import Teletype.Proofs.Session.Coherent
import Teletype.Proofs.Session.Frame
import Teletype.Proofs.Session.Report
import Teletype.Proofs.Session.Schedule
/-!
# Reveals come to an end

There are two loops that bring the reveal of the screen that shows to its end: skipping finishes one
item after another, and a host may let ticks pass until one of them tells of nothing. Here the loops
run as long as they like, and both of them stop: with a failure, or with every item done.
-/

namespace Teletype

namespace Session

/-! ## The loops -/

/-- Finishes the active item and goes on, over and over until every item is done. A number of rounds
is the most that find an item that is not done; what happened is given if they suffice. -/
def skipRounds : Nat → Play (Option (List LifecycleEvent))
  | 0 => do return if (← get).isRevealed then some [] else none
  | rounds + 1 => do
    let s ← get
    match s.run with
    | none => return some []
    | some run =>
      if run.isDone then return some []
      else
        let (run, shown) := run.finishActive
        modify fun s ↦ { s with run := some run }
        let events ← advance
        let rest ← skipRounds rounds
        return rest.map (shown ++ events ++ ·)

/-- Lets ticks pass until one of them tells of nothing, a number of ticks at the most, and gives
whether it came to that. -/
def tickRounds : Nat → Play Bool
  | 0 => return false
  | rounds + 1 => do
    let events ← tick
    if events.isEmpty then return true
    tickRounds rounds

variable {d : Document} {screen : Screen} {s t : Session} {run : ScreenRun}
  {events : List LifecycleEvent}

/-- A reveal that has not come to its end shows a screen with an item that is not done. -/
theorem exists_going_of_not_isRevealed (h : ¬ s.isRevealed = true) :
    ∃ run, s.run = some run ∧ run.isDone = false := by
  cases hr : s.run with
  | none => simp [isRevealed, hr] at h
  | some run => exact ⟨run, rfl, by simpa [isRevealed, hr] using h⟩

/-- Skipping ends when every item is done, or when there are none. -/
theorem skipRounds_of_revealed (h : s.isRevealed = true) (rounds : Nat) :
    skipRounds rounds s = .ok (some []) s := by
  cases rounds with
  | zero =>
    rw [skipRounds, get_bind, if_pos h]
    rfl
  | succ rounds =>
    rw [skipRounds, get_bind]
    cases hr : s.run with
    | none => rfl
    | some run =>
      have done : run.isDone = true := by simpa [isRevealed, hr] using h
      simp only [done, ↓reduceIte]
      rfl

/-- A round finishes the active item before the reveal goes on. -/
theorem skipRounds_of_going (h : s.run = some run) (going : run.isDone = false) (rounds : Nat) :
    skipRounds (rounds + 1) s = (do
      let events ← advance
      let rest ← skipRounds rounds
      return rest.map (run.finishActive.2 ++ events ++ ·) : Play (Option (List LifecycleEvent)))
        { s with run := some run.finishActive.1 } := by
  rw [skipRounds, get_bind, h]
  simp only [going, Bool.false_eq_true, ↓reduceIte]
  rfl

/-- What has ended has come to the end of the reveal. -/
theorem isRevealed_of_skipRounds {rounds : Nat} (ok : skipRounds rounds s = .ok (some events) t) :
    t.isRevealed = true := by
  induction rounds generalizing s events with
  | zero =>
    rw [skipRounds, get_bind] at ok
    split at ok
    · next revealed =>
      cases ok
      exact revealed
    · cases ok
  | succ rounds ih =>
    by_cases revealed : s.isRevealed = true
    · rw [skipRounds_of_revealed revealed] at ok
      cases ok
      exact revealed
    · obtain ⟨run, hr, going⟩ := exists_going_of_not_isRevealed revealed
      rw [skipRounds_of_going hr going] at ok
      obtain ⟨_, _, -, ok⟩ := bind_eq_ok_iff.mp ok
      obtain ⟨rest, _, skipped, ok⟩ := bind_eq_ok_iff.mp ok
      cases rest with
      | none => cases ok
      | some rest =>
        cases ok
        exact ih skipped

/-! ## Skipping -/

/-- Skipping a reveal that is done does nothing. -/
theorem skipSteps_of_done (h : s.run = some run) (done : run.isDone = true) (fuel : Nat) :
    skipSteps fuel s = .ok [] s := by
  cases fuel with
  | zero => rfl
  | succ fuel => rw [skipSteps_of_run h, if_pos done]

/-- The rounds that a reveal needs suffice, and more of them make no difference. -/
theorem Shows.skipRounds_eq (h : s.Shows d screen run) {rounds fuel : Nat}
    (enough : run.rounds ≤ rounds) (enough' : run.rounds ≤ fuel) :
    skipRounds rounds s =
      (do return some (← skipSteps fuel) : Play (Option (List LifecycleEvent))) s := by
  induction rounds generalizing s run fuel with
  | zero =>
    have done := ScreenRun.isDone_of_rounds (Nat.le_zero.mp enough)
    have revealed : s.isRevealed = true := by simp [isRevealed, h.run_eq, done]
    rw [skipRounds_of_revealed revealed, bind_of_ok (skipSteps_of_done h.run_eq done fuel)]
    rfl
  | succ rounds ih =>
    cases hd : run.isDone with
    | true =>
      have revealed : s.isRevealed = true := by simp [isRevealed, h.run_eq, hd]
      rw [skipRounds_of_revealed revealed, bind_of_ok (skipSteps_of_done h.run_eq hd fuel)]
      rfl
    | false =>
      obtain ⟨fuel, rfl⟩ : ∃ n, fuel = n + 1 := by
        refine Nat.exists_eq_succ_of_ne_zero fun none_left ↦ ?_
        have done := ScreenRun.isDone_of_rounds (Nat.le_zero.mp (none_left ▸ enough'))
        rw [hd] at done
        cases done
      have finished : Shows d screen run.finishActive.1
          { s with run := some run.finishActive.1 } := h.with_run (h.isOf.step .finish)
      have steps := skipSteps_of_run h.run_eq fuel
      rw [if_neg (by simp [hd])] at steps
      rw [skipRounds_of_going h.run_eq hd]
      cases ha : advance { s with run := some run.finishActive.1 } with
      | error e u =>
        rw [bind_of_error ha] at steps ⊢
        rw [bind_of_error steps]
      | ok told u =>
        obtain ⟨ok, -, shows⟩ := finished.of_advance ha
        have fewer := ScreenRun.rounds_lt_of_finish h.isOf.staged hd _ _ ok
        have same := ih shows (show _ ≤ rounds by omega) (show _ ≤ fuel by omega)
        rw [bind_of_ok ha] at steps ⊢
        cases hs : skipSteps fuel u with
        | error e v =>
          rw [bind_of_error hs] at steps same
          rw [bind_of_error same, bind_of_error steps]
        | ok rest v =>
          rw [bind_of_ok hs] at steps same
          rw [bind_of_ok same, bind_of_ok steps]
          rfl

/-- One round more than there are pending items is enough for skipping. -/
theorem Shows.skipRounds_eq_skip (h : s.Shows d screen run) {rounds : Nat}
    (enough : run.pending + 1 ≤ rounds) :
    skipRounds rounds s = (do return some (← skip) : Play (Option (List LifecycleEvent))) s := by
  have few := run.rounds_le
  have limit : skip s = skipSteps (run.pending + 1) s := by
    rw [skip_eq, h.run_eq, Option.map_some, Option.getD_some]
  rw [h.skipRounds_eq (Nat.le_trans few enough) few, bind_of_eq limit]

/-! ## Waiting -/

/-- Ticks from a session have come to an end: with a failure, or with every item done. -/
def TicksEnd (s : Session) (rounds : Nat) : Prop :=
  (∃ e t, tickRounds rounds s = .error e t) ∨
    ∃ t, tickRounds rounds s = .ok true t ∧ t.isRevealed = true

/-- A tick that fails ends ticking. -/
theorem ticksEnd_of_error {e : SessionError} (failed : tick s = .error e t) : s.TicksEnd 1 :=
  .inl ⟨e, t, bind_of_error failed _⟩

/-- A tick that tells of nothing ends ticking. -/
theorem ticksEnd_of_nil (ok : tick s = .ok [] t) (revealed : t.isRevealed = true) : s.TicksEnd 1 :=
  .inr ⟨t, bind_of_ok ok _, revealed⟩

/-- Behind a tick that tells of something the ticks go on. -/
theorem ticksEnd_of_cons (ok : tick s = .ok events t) (told : events ≠ []) {rounds : Nat}
    (ended : t.TicksEnd rounds) : s.TicksEnd (rounds + 1) := by
  have same : tickRounds (rounds + 1) s = tickRounds rounds t := by
    rw [tickRounds, bind_of_ok ok, if_neg (by simpa using told)]
  rwa [TicksEnd, same]

/-- No item of the screen that shows has been laid out to 2 ^ 32 characters or more. -/
def IsShort (s : Session) : Prop :=
  ∀ run, s.run = some run → ∀ item ∈ run.items, item.length < 2 ^ 32

instance (s : Session) : Decidable s.IsShort :=
  match hr : s.run with
  | none => .isTrue fun _ h ↦ by rw [hr] at h; cases h
  | some run =>
    decidable_of_iff (∀ item ∈ run.items, item.length < 2 ^ 32)
      ⟨fun short other h ↦ by rw [hr] at h; cases h; exact short, fun short ↦ short run hr⟩

/-- No item has been laid out to 2 ^ 32 characters or more in any state that ticks lead to. -/
def StaysShort (s : Session) : Prop := ∀ n, (s.afterAll (List.replicate n .tick)).IsShort

/-- Items stay short that are so now and stay so behind a tick. -/
theorem staysShort_iff_after : s.StaysShort ↔ s.IsShort ∧ (s.after .tick).StaysShort := by
  constructor
  · exact fun h ↦ ⟨h 0, fun n ↦ h (n + 1)⟩
  · rintro ⟨now, later⟩ (_ | n)
    · exact now
    · exact later n

/-- Items that are short stay so where a tick changes nothing. -/
theorem staysShort_of_still (now : s.IsShort) (still : s.after .tick = s) : s.StaysShort := by
  intro n
  induction n with
  | zero => exact now
  | succ n ih => rwa [List.replicate_succ, afterAll, List.foldl_cons, still]

/-- Items that stay short can be waited for. -/
theorem Shows.isCountable (h : s.Shows d screen run) (delays : d.HasWordDelays)
    (short : s.StaysShort) : ∀ item ∈ run.items, item.IsCountable := by
  intro item hm
  refine ⟨(staysShort_iff_after.mp short).1 run h.run_eq item hm, ?_⟩
  have speed : item.speed ∈ (screen.revealEntries d.config.speed).map RevealEntry.speed := by
    rw [← h.isOf.staged.sequenced.speeds_eq]
    exact List.mem_map_of_mem hm
  obtain ⟨e, he, same⟩ := List.mem_map.mp speed
  rw [← same]
  exact delays screen (Document.mem_of_screen? h.isOf.found) e he

/-- Ticks that let time pass come to an end. -/
theorem Shows.exists_ticksEnd (h : s.Shows d screen run) (delays : d.HasWordDelays)
    (passes : 0 < s.tickInterval.nanos) (short : s.StaysShort) : ∃ rounds, s.TicksEnd rounds := by
  induction run using ScreenRun.wellFounded_isCloser.induction generalizing s with
  | _ run ih =>
    have ticked : Shows d screen (run.tick s.tickInterval).1
        { s with run := some (run.tick s.tickInterval).1 } :=
      h.with_run (h.isOf.step (.tick s.tickInterval))
    have now := tickBy_of_run h.run_eq s.tickInterval
    rw [← tick_eq] at now
    cases ha : advance { s with run := some (run.tick s.tickInterval).1 } with
    | error e t =>
      rw [bind_of_error ha] at now
      exact ⟨1, ticksEnd_of_error now⟩
    | ok told t =>
      obtain ⟨ok, rfl, shows⟩ := ticked.of_advance ha
      rw [bind_of_ok ha] at now
      by_cases silent : (run.tick s.tickInterval).2 ++ told = []
      · have done := ScreenRun.isDone_of_silence h.isOf.staged _ _ ok silent
        rw [silent] at now
        exact ⟨1, ticksEnd_of_nil now (by simpa [isRevealed] using done)⟩
      · have closer := ScreenRun.isCloser_of_tick h.isOf.staged (h.isCountable delays short) passes
          _ _ ok silent
        have first : s.after .tick = _ := after_of_ok now
        have later := first ▸ (staysShort_iff_after.mp short).2
        obtain ⟨rounds, ended⟩ := ih _ closer shows passes later
        exact ⟨rounds + 1, ticksEnd_of_cons now silent ended⟩

/-- After any calls the reveal that shows is one of a screen of the document. -/
theorem exists_shows_afterAll {setup : Setup} {settings : Settings}
    (document : setup.ownDocument = .ok d) (own : setup.ownSettings = .ok settings)
    (h : setup.session = .ok s) (calls : List Call) (hr : (s.afterAll calls).run = some run) :
    ∃ screen, (s.afterAll calls).Shows d screen run := by
  have opened : s.Within (unbounded d setup.hostCommands) (setup.overriding settings).columns :=
    within_of_session document rfl own (fun _ _ _ ↦ trivial) h
  have kept := opened.afterAll (closed_unbounded d setup.hostCommands) fun c (_ : c ∈ calls) ↦
    respects_unbounded d setup.hostCommands c
  obtain ⟨screen, -, began⟩ := kept.exists_screen hr
  exact ⟨screen, kept.document_eq, hr, began.isOf⟩

/-- The time of a tick is that of the settings, with what the host sets in their place. -/
theorem tickInterval_of_session {setup : Setup} {settings : Settings}
    (own : setup.ownSettings = .ok settings) (h : setup.session = .ok s) :
    s.tickInterval = .ofMillis (setup.overriding settings).tickMs := by
  obtain ⟨found, opens⟩ := Setup.exists_opensFrom h
  cases own.symm.trans opens.own
  exact opens.tickInterval

/-- Where no screen shows both loops have come to their end. -/
theorem ticksEnd_of_no_run (h : s.run = none) : s.TicksEnd 1 :=
  ticksEnd_of_nil (play_of_no_run (c := .tick) rfl h) (by simp [isRevealed, h])

/-- Both loops that bring a reveal to its end stop, wherever they begin. Skipping goes through at
most one round more than there are items that are not done, and more rounds would make no
difference; where it succeeds every item of the screen that shows is done, if there is one. Ticks of
a millisecond or more come to an end as long as the lengths of items stay below 2 ^ 32: one of them
fails, or one of them tells of nothing and every item is done. Delays of a document that has been
read always fit into 32 bits. -/
theorem reveal_loops_end {setup : Setup} {settings : Settings}
    (document : setup.ownDocument = .ok d) (own : setup.ownSettings = .ok settings)
    (h : setup.session = .ok s) (calls : List Call) :
    let t := s.afterAll calls
    (∀ rounds, (t.run.map ScreenRun.pending).getD 0 + 1 ≤ rounds →
        skipRounds rounds t = (do return some (← skip) : Play (Option (List LifecycleEvent))) t) ∧
      (∀ events u, skip t = .ok events u → u.isRevealed = true) ∧
      (1 ≤ (setup.overriding settings).tickMs → d.HasWordDelays → t.StaysShort →
        ∃ rounds, t.TicksEnd rounds) := by
  intro t
  have skipped : ∀ rounds, (t.run.map ScreenRun.pending).getD 0 + 1 ≤ rounds →
      skipRounds rounds t = (do return some (← skip) : Play (Option (List LifecycleEvent))) t := by
    intro rounds enough
    cases hr : t.run with
    | none =>
      have nothing : skip t = .ok [] t := play_of_no_run (c := .skip) rfl hr
      rw [skipRounds_of_revealed (by simp [isRevealed, hr]), bind_of_ok nothing]
      rfl
    | some run =>
      obtain ⟨screen, shows⟩ := exists_shows_afterAll document own h calls hr
      rw [hr, Option.map_some, Option.getD_some] at enough
      exact shows.skipRounds_eq_skip enough
  refine ⟨skipped, fun events u ok ↦ ?_, fun passes delays short ↦ ?_⟩
  · have ended := skipped _ (Nat.le_refl _)
    rw [bind_of_ok ok] at ended
    exact isRevealed_of_skipRounds ended
  · cases hr : t.run with
    | none => exact ⟨1, ticksEnd_of_no_run hr⟩
    | some run =>
      obtain ⟨screen, shows⟩ := exists_shows_afterAll document own h calls hr
      have interval : t.tickInterval = .ofMillis (setup.overriding settings).tickMs :=
        fixed_afterAll (isFixed_tickInterval _) (tickInterval_of_session own h) calls
      refine shows.exists_ticksEnd delays ?_ short
      rw [interval, Duration.ofMillis]
      exact Nat.mul_pos passes (by decide)

end Session

namespace Vault

/-- The story with a text in the hall, without further settings. -/
def inscribedSetup : Setup where
  document := .given inscribed

/-- Both the skip and the ticks that follow the showing of the hall end with its text shown and its
note made. -/
theorem reveal_loops_end_inscribed :
    inscribing.isRevealed = false ∧ inscribing.StaysShort ∧
      (∃ events u, Session.skip inscribing = .ok events u ∧ u.isRevealed = true) ∧
      ∃ rounds, inscribing.TicksEnd rounds := by
  have opened : inscribedSetup.session = .ok { opening with document := inscribed } := rfl
  have delays : inscribed.HasWordDelays := by
    unfold Document.HasWordDelays
    decide +kernel
  have short : inscribing.StaysShort := by
    refine Session.staysShort_iff_after.mpr ⟨by decide +kernel, ?_⟩
    refine Session.staysShort_iff_after.mpr ⟨by decide +kernel, ?_⟩
    refine Session.staysShort_of_still (by decide +kernel) ?_
    -- laying out a text recurses on its length, which only unfolding everything gets through
    with_unfolding_all exact rfl
  obtain ⟨events, u, skipped⟩ : ∃ events u, Session.skip inscribing = .ok events u :=
    ⟨_, _, by with_unfolding_all exact rfl⟩
  obtain ⟨-, ends, ticks⟩ := Session.reveal_loops_end rfl rfl opened [.activate "hall"]
  exact ⟨by decide +kernel, short, ⟨events, u, skipped, ends events u skipped⟩,
    ticks (by decide) delays short⟩

end Vault

end Teletype
