import Teletype.Proofs.Keeps
import Teletype.Proofs.Reveal.Outcome
import Teletype.Proofs.Session.Advance
import Teletype.Proofs.Session.Call
import Teletype.Proofs.Session.Vault
/-!
# The schedule of a reveal does not change the story

However the time of a reveal is cut into ticks, and whether it is skipped or not: once every item is
done, the variables, the toggles and the random source are the same, so are the items, and what has
become active and done on the way has done so in the same order.
-/

namespace Teletype

open ScreenRun (Staged)

/-- A session at a point of a reveal. -/
def Session.at (s : Session) (run : ScreenRun) (world : World) : Session :=
  { s with run := some run, world }

/-- Playing that, wherever it succeeds, only goes on with the reveal of a screen. -/
def Play.Waits (s : Session) (screen : Screen) (entries : List RevealEntry)
    (x : Play (List LifecycleEvent)) : Prop :=
  ∀ (run : ScreenRun) (world : World) (events : List LifecycleEvent) (t : Session),
    s.document.screen? run.screen = some screen → Staged entries run.items run.active →
    x (s.at run world) = .ok events t →
    ∃ later after, t = s.at later after ∧
      ScreenRun.GoesOn (s.measure screen) entries run world events later after

namespace Session

variable {s : Session} {screen : Screen} {entries : List RevealEntry}

private theorem waits_nothing : Play.Waits s screen entries (return []) := by
  intro run world events t _ staged ok
  cases ok
  exact ⟨run, world, rfl, .refl staged world⟩

private theorem waits_append {x y : Play (List LifecycleEvent)} (hx : Play.Waits s screen entries x)
    (hy : Play.Waits s screen entries y) :
    Play.Waits s screen entries (do
      let first ← x
      let rest ← y
      return first ++ rest) := by
  intro run world events t found staged ok
  obtain ⟨first, u, okx, ok⟩ := bind_eq_ok_iff.mp ok
  obtain ⟨rest, v, oky, ok⟩ := bind_eq_ok_iff.mp ok
  cases ok
  obtain ⟨middle, between, rfl, before⟩ := hx run world first u found staged okx
  obtain ⟨later, after, rfl, behind⟩ := hy middle between rest t (before.screen_eq ▸ found)
    before.staged oky
  exact ⟨later, after, rfl, before.trans behind⟩

/-- Advancing only goes on with a reveal. -/
theorem waits_advance : Play.Waits s screen entries advance := by
  intro run world events t found staged ok
  rw [advance_of_screen (s := s.at run world) rfl found] at ok
  split at ok
  · next ho =>
    cases ok
    exact ⟨_, _, rfl, ScreenRun.goesOn_advance staged ho⟩
  · cases ok

/-- Time only goes on with a reveal. -/
theorem waits_tickBy (elapsed : Duration) : Play.Waits s screen entries (tickBy elapsed) := by
  intro run world events t found staged ok
  have ticked : ScreenRun.GoesOn (s.measure screen) entries run world _ _ world :=
    ScreenRun.goesOn_tick staged world elapsed
  rw [tickBy_of_run (s := s.at run world) rfl] at ok
  obtain ⟨more, u, oka, ok⟩ := bind_eq_ok_iff.mp ok
  cases ok
  obtain ⟨later, after, rfl, advanced⟩ := waits_advance _ _ more t (ticked.screen_eq ▸ found)
    ticked.staged oka
  exact ⟨later, after, rfl, ticked.trans advanced⟩

/-- A tick only goes on with a reveal. -/
theorem waits_tick : Play.Waits s screen entries tick := by
  intro run world events t found staged ok
  unfold tick at ok
  rw [get_bind] at ok
  exact waits_tickBy s.tickInterval run world events t found staged ok

/-- Showing active items fully only goes on with a reveal. -/
theorem waits_skipSteps (fuel : Nat) : Play.Waits s screen entries (skipSteps fuel) := by
  induction fuel with
  | zero => exact waits_nothing
  | succ fuel ih =>
    intro run world events t found staged ok
    rw [skipSteps_of_run (s := s.at run world) rfl] at ok
    split at ok
    · cases ok
      exact ⟨run, world, rfl, .refl staged world⟩
    · have finished : ScreenRun.GoesOn (s.measure screen) entries run world _ _ world :=
        ScreenRun.goesOn_finishActive staged world
      obtain ⟨more, u, oka, ok⟩ := bind_eq_ok_iff.mp ok
      obtain ⟨rest, v, okr, ok⟩ := bind_eq_ok_iff.mp ok
      cases ok
      obtain ⟨middle, between, rfl, advanced⟩ := waits_advance _ _ more u
        (finished.screen_eq ▸ found) finished.staged oka
      have first := finished.trans advanced
      obtain ⟨later, after, rfl, skipped⟩ := ih middle between rest t (first.screen_eq ▸ found)
        first.staged okr
      exact ⟨later, after, rfl, first.trans skipped⟩

/-- Ending a reveal only goes on with it. -/
theorem waits_skip : Play.Waits s screen entries skip := by
  intro run world events t found staged ok
  unfold skip at ok
  rw [get_bind] at ok
  exact waits_skipSteps (run.pending + 1) run world events t found staged ok

/-- A call that waits only goes on with a reveal. -/
theorem waits_play {c : Call} (h : c.isWait = true) : Play.Waits s screen entries c.play := by
  cases c with
  | tick => exact waits_tick
  | tickBy elapsed => exact waits_tickBy elapsed
  | skip => exact waits_skip
  | begin | activate | request | flip | dismiss | resize | restore | write => cases h

/-- Calls that all wait only go on with a reveal. -/
theorem waits_playAll {calls : List Call} (h : ∀ c ∈ calls, c.isWait = true) :
    Play.Waits s screen entries (playAll calls) := by
  induction calls with
  | nil => exact waits_nothing
  | cons c calls ih =>
    obtain ⟨first, rest⟩ := List.forall_mem_cons.mp h
    exact waits_append (waits_play first) (ih rest)

/-- Showing a screen makes the changes outside of its reveal and then goes on with the reveal. -/
theorem goesOn_of_activate {id : String} {s₀ : Session} {opening : List LifecycleEvent}
    (found : s₀.document.screen? id = some screen) (shown : activate id s₀ = .ok opening s) :
    ∃ run world after events,
      Mutation.applyAll screen.immediateMutations s₀.world = .ok () world ∧ s = s₀.at run after ∧
        ScreenRun.GoesOn (s₀.measure screen) (screen.revealEntries s₀.document.config.speed)
          (.start id (screen.revealEntries s₀.document.config.speed)) world events run after := by
  rw [activate_of_screen found] at shown
  obtain ⟨_, u, worked, shown⟩ := bind_eq_ok_iff.mp shown
  obtain ⟨events, v, advanced, shown⟩ := bind_eq_ok_iff.mp shown
  cases shown
  -- the changes outside of the reveal come before its first advance, and before any wait
  unfold work at worked
  split at worked
  · next world made =>
    cases worked
    have staged : Staged (screen.revealEntries s₀.document.config.speed) _ _ :=
      .waiting (screen.revealEntries s₀.document.config.speed)
    obtain ⟨later, after, rfl, ahead⟩ := waits_advance
      (.start id (screen.revealEntries s₀.document.config.speed)) world events s found staged
      advanced
    exact ⟨later, world, after, events, made, rfl, ahead⟩
  · cases worked

/-- Showing a screen leaves a session at a point of its reveal. -/
theorem exists_of_activate {id : String} {s₀ : Session} {opening : List LifecycleEvent}
    (shown : activate id s₀ = .ok opening s) :
    ∃ screen entries run world, s = s₀.at run world ∧
      s₀.document.screen? run.screen = some screen ∧ Staged entries run.items run.active := by
  cases found : s₀.document.screen? id with
  | none =>
    rw [activate_of_none found] at shown
    cases shown
  | some screen =>
    obtain ⟨run, _, after, _, -, rfl, ahead⟩ := goesOn_of_activate found shown
    exact ⟨screen, _, run, after, rfl, ahead.screen_eq ▸ found, ahead.staged⟩

/-- Whether every item of the screen that shows is done. -/
def isRevealed (s : Session) : Bool := s.run.all ScreenRun.isDone

/-- The items of the screen that shows, without the time they have taken. -/
def settledItems (s : Session) : List ItemProgress :=
  ((s.run.map ScreenRun.items).getD []).map ItemProgress.timeless

/-- Once every item is done, a reveal has come to what its items settled at the beginning. -/
theorem settles_of_playAll {run : ScreenRun} {world : World}
    (found : s.document.screen? run.screen = some screen)
    (staged : Staged entries run.items run.active) {calls : List Call}
    (wait : ∀ c ∈ calls, c.isWait = true) {events : List LifecycleEvent} {t : Session}
    (played : playAll calls (s.at run world) = .ok events t) (revealed : t.isRevealed = true) :
    t.dialog = s.dialog ∧ t.screenId? = some run.screen ∧
      ScreenRun.Settles (s.measure screen) run.items world t.settledItems (milestones events)
        t.world := by
  obtain ⟨later, after, rfl, ahead⟩ := waits_playAll wait run world events t found staged played
  have done : ∀ item ∈ later.items, item.state = .done := by
    intro item hm
    have all : later.isDone = true := by simpa [isRevealed, Session.at] using revealed
    simpa using List.all_eq_true.mp all item hm
  refine ⟨rfl, congrArg some ahead.screen_eq, ?_⟩
  have settled := ahead.settles (ScreenRun.Settles.of_done done after)
  rw [List.append_nil, ahead.staged.complete_eq_timeless done] at settled
  exact settled

/-- However a reveal is waited for, once every item is done the variables, the toggles, the random
source, the dialog, the screen and the items are the same, and the items have become active and done
in the same order. -/
theorem same_story_of_waits {id : String} {s₀ s s₁ s₂ : Session}
    {opening events₁ events₂ : List LifecycleEvent} (shown : activate id s₀ = .ok opening s)
    {calls₁ calls₂ : List Call} (wait₁ : ∀ c ∈ calls₁, c.isWait = true)
    (wait₂ : ∀ c ∈ calls₂, c.isWait = true) (played₁ : playAll calls₁ s = .ok events₁ s₁)
    (played₂ : playAll calls₂ s = .ok events₂ s₂) (revealed₁ : s₁.isRevealed = true)
    (revealed₂ : s₂.isRevealed = true) :
    s₁.world = s₂.world ∧ s₁.dialog = s₂.dialog ∧ s₁.screenId? = s₂.screenId? ∧
      s₁.settledItems = s₂.settledItems ∧ milestones events₁ = milestones events₂ := by
  obtain ⟨screen, entries, run, world, rfl, found, staged⟩ := exists_of_activate shown
  obtain ⟨dialog₁, screen₁, end₁⟩ := settles_of_playAll found staged wait₁ played₁ revealed₁
  obtain ⟨dialog₂, screen₂, end₂⟩ := settles_of_playAll found staged wait₂ played₂ revealed₂
  obtain ⟨items, events, worlds⟩ := end₁.unique end₂
  exact ⟨worlds, dialog₁.trans dialog₂.symm, screen₁.trans screen₂.symm, items, events⟩

end Session

namespace Vault

/-- A text in the hall that takes its time. -/
def inscription : Item := ⟨"inscription", none, true, .text "no" { speed := some 10 }⟩

/-- What is noted once the text has been read. -/
def reading : Item := ⟨"reading", none, true, .mutate "name" ⟨.set, some (.text "read"), none⟩⟩

/-- The story with a text in the hall. -/
def inscribed : Document :=
  { document with
    screens := [⟨"hall", .screen, [inscription, reading, door]⟩, ⟨"vault", .screen, []⟩] }

/-- The session in which the text is being revealed. -/
def inscribing : Session :=
  ({ opening with document := inscribed } : Session).after (.activate "hall")

/-- Two ticks come to the same as skipping. -/
theorem same_story_of_skip :
    ∃ opened events₁ events₂,
      Session.activate "hall" { opening with document := inscribed } = .ok opened inscribing ∧
      Session.playAll [.tickBy (.ofMillis 15), .tickBy (.ofMillis 15)] inscribing =
        .ok events₁ (inscribing.afterAll [.tickBy (.ofMillis 15), .tickBy (.ofMillis 15)]) ∧
      Session.playAll [.skip] inscribing = .ok events₂ (inscribing.afterAll [.skip]) ∧
      (inscribing.afterAll [.tickBy (.ofMillis 15), .tickBy (.ofMillis 15)]).world =
        (inscribing.afterAll [.skip]).world ∧
      milestones events₁ = milestones events₂ := by
  -- laying out a text recurses on its length, which only unfolding everything gets through
  obtain ⟨opened, shown⟩ : ∃ opened, Session.activate "hall"
      { opening with document := inscribed } = .ok opened inscribing :=
    ⟨_, by with_unfolding_all exact rfl⟩
  obtain ⟨events₁, played₁⟩ : ∃ events,
      Session.playAll [.tickBy (.ofMillis 15), .tickBy (.ofMillis 15)] inscribing =
        .ok events (inscribing.afterAll [.tickBy (.ofMillis 15), .tickBy (.ofMillis 15)]) :=
    ⟨_, by with_unfolding_all exact rfl⟩
  obtain ⟨events₂, played₂⟩ : ∃ events, Session.playAll [.skip] inscribing =
      .ok events (inscribing.afterAll [.skip]) :=
    ⟨_, by with_unfolding_all exact rfl⟩
  have same := Session.same_story_of_waits shown (by decide) (by decide) played₁ played₂
    (by decide +kernel) (by decide +kernel)
  exact ⟨opened, events₁, events₂, shown, played₁, played₂, same.1, same.2.2.2.2⟩

end Vault

end Teletype
