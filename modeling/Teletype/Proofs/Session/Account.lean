import Teletype.Proofs.Session.Report
import Teletype.Proofs.Session.Schedule
/-!
# The account of a host

A host that notes every event it is told of can keep an account of the items of the screen that
shows. A call that fails tells it nothing, though what the reveal has done before the failure is
done all the same. So the account is right throughout some calls exactly if none of them fails, but
for want of a screen: such a failure changes nothing, and any other one leaves the account wrong.
-/

namespace Teletype

namespace Call

/-- Whether a call tells what it does to items. Where a request leads is not told. -/
def reports : Call → Bool
  | request _ => false
  | _ => true

/-- Whether a call shows a screen of the document. -/
def showsScreen (c : Call) (s : Session) : Bool :=
  match c with
  | begin => (s.document.screen? s.start).isSome
  | activate id => (s.document.screen? id).isSome
  | _ => false

/-- The events that a call tells of. One that fails tells of none. -/
def heard (c : Call) (s : Session) : List LifecycleEvent :=
  match c.play s with
  | .ok events _ => events
  | .error .. => []

end Call

/-- A session and what its host knows of the items of the screen that shows. -/
structure Host where
  session : Session
  account : Account

namespace Host

/-- A host that has heard of nothing yet. -/
def of (s : Session) : Host := ⟨s, ∅⟩

/-- The host after a call. When a screen is shown the account begins anew. -/
def after (h : Host) (c : Call) : Host where
  session := h.session.after c
  account := (if c.showsScreen h.session then ∅ else h.account).hearAll (c.heard h.session)

/-- The host after several calls. -/
def afterAll (h : Host) (calls : List Call) : Host := calls.foldl after h

/-- Whether the account says of every item of the screen that shows how far it has come. -/
def Agrees (h : Host) : Prop :=
  ∀ screen, h.session.screen? = some screen → ∀ item ∈ screen.items,
    h.account[item.id]? = h.session.state? item.id

/-- A host that knows how far the items have come of a reveal that is at rest. -/
structure Tracks (d : Document) (h : Host) : Prop where
  document_eq : h.session.document = d
  told : ∀ run, h.session.run = some run →
    (∃ screen, run.IsOf d screen) ∧ run.Rests ∧ h.account.Tells run.items

/-- What becomes of a host that tracks a session in a call that reports: it goes on tracking it,
unless the call fails for something else than for want of a screen. -/
def Fares (d : Document) (h : Host) (c : Call) : Prop :=
  match c.play h.session with
  | .ok _ _ => (h.after c).Tracks d
  | .error e _ =>
    (e.IsUnknownScreen ∧ (h.after c).Tracks d) ∨ (¬ e.IsUnknownScreen ∧ ¬ (h.after c).Agrees)

variable {d : Document} {screen : Screen} {h : Host} {c : Call}

/-- The host after a call that succeeds. -/
theorem after_of_ok {events : List LifecycleEvent} {t : Session}
    (played : c.play h.session = .ok events t) :
    h.after c = ⟨t, (if c.showsScreen h.session then ∅ else h.account).hearAll events⟩ := by
  rw [after, Session.after_of_ok played, Call.heard, played]

/-- The host after a call that fails. -/
theorem after_of_error {e : SessionError} {t : Session} (played : c.play h.session = .error e t) :
    h.after c = ⟨t, if c.showsScreen h.session then ∅ else h.account⟩ := by
  rw [after, Session.after_of_error played, Call.heard, played]
  rfl

/-- An account that tells how far the items have come of a reveal at rest is that of a host which
tracks the session. -/
theorem tracks_of_shows {t : Session} {account : Account} {run : ScreenRun}
    (shown : t.Shows d screen run) (rests : run.Rests) (told : account.Tells run.items) :
    (⟨t, account⟩ : Host).Tracks d := by
  refine ⟨shown.document_eq, fun other hrun ↦ ?_⟩
  cases hrun.symm.trans shown.run_eq
  exact ⟨⟨screen, shown.isOf⟩, rests, told⟩

section Distinct

variable (distinct : ∀ screen ∈ d.screens, (screen.items.map Item.id).Nodup)

include distinct

/-- Where a reveal shows, an account agrees with the session when it tells how far the items of the
reveal have come. -/
theorem agrees_iff_tells {run : ScreenRun} (shows : h.session.Shows d screen run) :
    h.Agrees ↔ h.account.Tells run.items := by
  have ids : (run.items.map ItemProgress.id).Nodup := by
    rw [shows.isOf.map_id]
    exact distinct screen (Document.mem_of_screen? shows.isOf.found)
  have screen_eq : h.session.screen? = some screen := by
    rw [Session.screen?, Session.screenId?, shows.run_eq, shows.document_eq]
    exact shows.isOf.found
  rw [ScreenRun.tells_iff ids, shows.isOf.map_id, List.forall_mem_map]
  simp [Agrees, screen_eq, Session.state?, shows.run_eq]

/-- A host that tracks a session agrees with it. -/
theorem Tracks.agrees (tracks : h.Tracks d) : h.Agrees := by
  cases hrun : h.session.run with
  | none =>
    intro screen hs
    simp [Session.screen?, Session.screenId?, hrun] at hs
  | some run =>
    obtain ⟨⟨screen, isOf⟩, -, told⟩ := tracks.told run hrun
    exact (agrees_iff_tells distinct ⟨tracks.document_eq, hrun, isOf⟩).mpr told

/-- Showing a screen is told of, or fails and is not. -/
theorem Tracks.fares_activate (tracks : h.Tracks d) (id : String) : h.Fares d (.activate id) := by
  unfold Fares
  cases found : h.session.document.screen? id with
  | none =>
    have failed : (Call.activate id).play h.session = .error (.unknownScreen id) h.session :=
      Session.activate_of_none found
    rw [failed]
    refine .inl ⟨⟨id, rfl⟩, ?_⟩
    rw [after_of_error failed]
    simpa [Call.showsScreen, found] using tracks
  | some screen =>
    have shows : (Call.activate id).showsScreen h.session = true := by
      simp [Call.showsScreen, found]
    have ids : (screen.items.map Item.id).Nodup :=
      distinct screen (tracks.document_eq ▸ Document.mem_of_screen? found)
    cases played : (Call.activate id).play h.session with
    | ok events t =>
      obtain ⟨later, shown, rests, told⟩ := Session.tells_of_activate found ids played
      simp only
      rw [after_of_ok played, if_pos shows]
      exact tracks_of_shows (tracks.document_eq ▸ shown) rests (told ∅)
    | error e t =>
      obtain ⟨⟨later, shown⟩, items, other⟩ := Session.shows_of_activate_eq_error found played
      refine .inr ⟨other, ?_⟩
      rw [after_of_error played, if_pos shows,
        agrees_iff_tells distinct (tracks.document_eq ▸ shown)]
      intro told
      obtain ⟨item, hm⟩ : ∃ item, item ∈ later.items := by
        refine List.exists_mem_of_ne_nil _ fun empty ↦ items ?_
        simpa [empty] using shown.isOf.map_id
      simpa using told item hm

/-- Waiting is told of, or fails and is not. -/
theorem Tracks.fares_wait (tracks : h.Tracks d) (wait : c.isWait = true) : h.Fares d c := by
  have stays : c.showsScreen h.session ≠ true := by
    cases c <;> simp [Call.isWait, Call.showsScreen] at wait ⊢
  unfold Fares
  cases hrun : h.session.run with
  | none =>
    have played := Session.play_of_no_run wait hrun
    rw [played]
    simp only
    rw [after_of_ok played, if_neg stays]
    exact tracks
  | some run =>
    obtain ⟨⟨screen, isOf⟩, rests, told⟩ := tracks.told run hrun
    have shows : h.session.Shows d screen run := ⟨tracks.document_eq, hrun, isOf⟩
    cases played : c.play h.session with
    | ok events t =>
      obtain ⟨later, shown, reports, rests⟩ := shows.reports_play wait rests played
      simp only
      rw [after_of_ok played, if_neg stays]
      refine tracks_of_shows shown rests (reports.tells ?_ _ told)
      rw [isOf.map_id]
      exact distinct screen (Document.mem_of_screen? isOf.found)
    | error e t =>
      obtain ⟨⟨later, shown, moved⟩, other⟩ := shows.moved_play wait rests played
      refine .inr ⟨other, ?_⟩
      rw [after_of_error played, if_neg stays, agrees_iff_tells distinct shown]
      exact told.not_of_moved moved (shown.isOf.map_id.trans isOf.map_id.symm)

/-- What becomes of a host that tracks a session in any call that reports. -/
theorem Tracks.fares (tracks : h.Tracks d) (reports : c.reports = true) : h.Fares d c := by
  cases c with
  | begin => exact tracks.fares_activate distinct h.session.start
  | activate id => exact tracks.fares_activate distinct id
  | request r => cases reports
  | tick | tickBy | skip => exact tracks.fares_wait distinct rfl
  | flip | dismiss | resize | restore | write => exact ⟨tracks.document_eq, tracks.told⟩

/-- A host that tracks a session agrees with it throughout some calls exactly if none of them fails
but for want of a screen. -/
theorem Tracks.throughout_iff (tracks : h.Tracks d) {calls : List Call}
    (reports : ∀ c ∈ calls, c.reports = true) :
    (∀ n, (h.afterAll (calls.take n)).Agrees) ↔
      ∀ e ∈ h.session.failures calls, e.IsUnknownScreen := by
  induction calls generalizing h with
  | nil => simpa [afterAll, Session.failures] using tracks.agrees distinct
  | cons c calls ih =>
    obtain ⟨first, rest⟩ := List.forall_mem_cons.mp reports
    have behind : (∀ n, (h.afterAll ((c :: calls).take n)).Agrees) ↔
        ∀ n, ((h.after c).afterAll (calls.take n)).Agrees := by
      refine ⟨fun all n ↦ all (n + 1), fun later n ↦ ?_⟩
      cases n with
      | zero => exact tracks.agrees distinct
      | succ n => exact later n
    have fares := tracks.fares distinct first
    unfold Fares at fares
    unfold Session.failures
    rw [behind]
    cases played : c.play h.session with
    | ok events t =>
      rw [played] at fares
      have session_eq : (h.after c).session = t := Session.after_of_ok played
      simpa only [session_eq] using ih fares rest
    | error e t =>
      rw [played] at fares
      have session_eq : (h.after c).session = t := Session.after_of_error played
      rw [List.forall_mem_cons]
      rcases fares with ⟨unknown, tracks⟩ | ⟨other, wrong⟩
      · have := ih tracks rest
        rw [session_eq] at this
        rw [this]
        exact (and_iff_right unknown).symm
      · exact iff_of_false (fun all ↦ wrong (all 0)) fun all ↦ other all.1

end Distinct

/-- A host that has heard of nothing yet tracks a session that has just been set up. -/
theorem tracks_of {setup : Setup} {s : Session} (h : setup.session = .ok s) :
    (Host.of s).Tracks s.document := by
  obtain ⟨settings, opens⟩ := Setup.exists_opensFrom h
  exact ⟨rfl, fun run hrun ↦ nomatch opens.run.symm.trans hrun⟩

/-- From the setup of a session on, the host knows how far every item of the screen that shows has
come, exactly if no call fails but for want of a screen. -/
theorem agrees_throughout_iff {setup : Setup} {s : Session} (made : setup.session = .ok s)
    (distinct : ∀ screen ∈ s.document.screens, (screen.items.map Item.id).Nodup)
    {calls : List Call} (reports : ∀ c ∈ calls, c.reports = true) :
    (∀ n, ((Host.of s).afterAll (calls.take n)).Agrees) ↔
      ∀ e ∈ s.failures calls, e.IsUnknownScreen :=
  (tracks_of made).throughout_iff distinct reports

end Host

namespace Vault

/-- Asking for a cellar, which there is not, while the inscription is being revealed does no harm to
the account. -/
theorem agrees_inscription :
    ({ document := .given inscribed } : Setup).session =
        .ok { opening with document := inscribed } ∧
      ({ opening with document := inscribed } : Session).failures
        [.begin, .tickBy (.ofMillis 15), .activate "cellar", .skip] = [.unknownScreen "cellar"] ∧
      ∀ n, ((Host.of { opening with document := inscribed }).afterAll
        (List.take n [.begin, .tickBy (.ofMillis 15), .activate "cellar", .skip])).Agrees := by
  have made : ({ document := .given inscribed } : Setup).session =
      .ok { opening with document := inscribed } := rfl
  have failures : ({ opening with document := inscribed } : Session).failures
      [.begin, .tickBy (.ofMillis 15), .activate "cellar", .skip] = [.unknownScreen "cellar"] := by
    decide +kernel
  have unknown : ∀ e ∈ ({ opening with document := inscribed } : Session).failures
      [.begin, .tickBy (.ofMillis 15), .activate "cellar", .skip], e.IsUnknownScreen := by
    rw [failures]
    exact List.forall_mem_singleton.mpr ⟨"cellar", rfl⟩
  exact ⟨made, failures,
    (Host.agrees_throughout_iff made (by decide) (by decide)).mpr unknown⟩

/-- What is counted once the text has been read, which cannot be counted. -/
def tally : Item := ⟨"tally", none, true, .mutate "name" ⟨.count .increment, none, none⟩⟩

/-- The story with a text in the hall and a count behind it. -/
def tallied : Document :=
  { document with screens := [⟨"hall", .screen, [inscription, tally]⟩, ⟨"vault", .screen, []⟩] }

/-- When the count fails the inscription is done, but all that the host has heard of it is that it
became active. -/
theorem not_agrees_tally :
    ∃ s, ({ document := .given tallied } : Setup).session = .ok s ∧
      (∀ screen ∈ s.document.screens, (screen.items.map Item.id).Nodup) ∧
      ((Host.of s).afterAll [.begin, .tickBy (.ofMillis 30)]).account["inscription"]? =
        some .active ∧
      ((Host.of s).afterAll [.begin, .tickBy (.ofMillis 30)]).session.state? "inscription" =
        some .done ∧
      ¬ ((Host.of s).afterAll [.begin, .tickBy (.ofMillis 30)]).Agrees := by
  have heard : ((Host.of { opening with document := tallied }).afterAll
      [.begin, .tickBy (.ofMillis 30)]).account["inscription"]? = some .active := by
    with_unfolding_all exact rfl
  have done : ((Host.of { opening with document := tallied }).afterAll
      [.begin, .tickBy (.ofMillis 30)]).session.state? "inscription" = some .done := by
    with_unfolding_all exact rfl
  refine ⟨{ opening with document := tallied }, rfl, by decide, heard, done, fun agrees ↦ ?_⟩
  have shown : ((Host.of { opening with document := tallied }).afterAll
      [.begin, .tickBy (.ofMillis 30)]).session.screen? =
        some ⟨"hall", .screen, [inscription, tally]⟩ := by
    with_unfolding_all exact rfl
  have same := agrees _ shown inscription List.mem_cons_self
  cases heard.symm.trans (same.trans done)

/-- The story with two texts of one id in the hall. -/
def twinned : Document :=
  { document with
    screens := [⟨"hall", .screen, [⟨"inscription", none, true, .text "no" {}⟩, inscription]⟩,
      ⟨"vault", .screen, []⟩] }

/-- Where two items have one id, an account that is kept by ids is wrong without any failure. -/
theorem not_agrees_twins :
    ¬ ((Host.of { opening with document := twinned }).afterAll [.begin]).Agrees := by
  intro agrees
  have shown : ((Host.of { opening with document := twinned }).afterAll
      [.begin]).session.screen? = some
        ⟨"hall", .screen, [⟨"inscription", none, true, .text "no" {}⟩, inscription]⟩ := by
    with_unfolding_all exact rfl
  have heard : ((Host.of { opening with document := twinned }).afterAll
      [.begin]).account["inscription"]? = some .active := by
    with_unfolding_all exact rfl
  have done : ((Host.of { opening with document := twinned }).afterAll
      [.begin]).session.state? "inscription" = some .done := by
    with_unfolding_all exact rfl
  have same := agrees _ shown inscription (List.mem_cons_of_mem _ List.mem_cons_self)
  cases heard.symm.trans (same.trans done)

end Vault

end Teletype
