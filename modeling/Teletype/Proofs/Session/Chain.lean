import Teletype.Proofs.Command.Choice
import Teletype.Proofs.Keeps
import Teletype.Proofs.Session.Failure
/-!
# The action of a request

Every request carries out at most one action: that of the command which an input answers to, or that
of a link. Before its signals are followed a request does just what this action does.
-/

namespace Teletype

/-- The actions of an item that is a link. -/
def Content.linkActions? : Content → Option LinkActions
  | .link _ actions _ => some actions
  | .text .. | .bitmap .. | .toggle .. | .prompt _ | .countdown _ | .mutate .. => none

namespace Session

variable {s : Session} {p : Prompt} {input : String}

/-- An input that no command at a prompt answers to does nothing. -/
theorem dispatchAt_of_none (h : (s.dispatcher.choose p input).1 = none) :
    dispatchAt p input s =
      .ok .unhandled { s with dispatcher := (s.dispatcher.choose p input).2 } := by
  unfold dispatchAt
  rw [Dispatcher.dispatch_eq, h]

/-- An input runs the command that is chosen for it. -/
theorem dispatchAt_of_some {c : Command} (h : (s.dispatcher.choose p input).1 = some c) :
    dispatchAt p input s =
      match c.run input s.world with
      | .ok o world => .ok o { s with dispatcher := (s.dispatcher.choose p input).2, world }
      | .error e world =>
        .error (.action e) { s with dispatcher := (s.dispatcher.choose p input).2, world } := by
  unfold dispatchAt
  cases hr : c.run input s.world <;> simp only [Dispatcher.dispatch_eq, h, hr]

end Session

namespace Request

variable {s u : Session} {signals : List Signal}

/-- The input of a request, if it has one. -/
def input? : Request → Option String
  | typeOn _ input | type input => some input
  | click .. => none

/-- The action of the command that an input on a screen answers to. -/
def answer? (s : Session) (screen input : String) : Option Action := do
  let screen ← s.document.screen? screen
  let p ← screen.prompt?
  let c ← (s.dispatcher.choose p input).1
  return c.action

/-- The action that a request carries out. -/
def action? (s : Session) : Request → Option Action
  | typeOn screen input => answer? s screen input
  | type input => s.screenId?.bind fun screen ↦ answer? s screen input
  | click id shift => do
    let item ← (s.item id).toOption
    let actions ← item.content.linkActions?
    return actions.forClick shift

/-- The world in which the action of a request begins: an input is kept before it. -/
def world (s : Session) (r : Request) : World :=
  match r.input? with
  | some input => { s.world with store := s.world.store.set lastCommandName (.text input) }
  | none => s.world

section Act

variable {id input screen : String} {shift : Bool} {item : Item}

private theorem act_type_of_some (h : s.screenId? = some screen) :
    (type input).act s = Session.answer screen input s := by
  change (match s.screenId? with
    | some screen => Session.answer screen input
    | none => throw .noActiveScreen : Play (List Signal)) s = _
  rw [h]

private theorem act_type_of_none (h : s.screenId? = none) :
    (type input).act s = .error .noActiveScreen s := by
  change (match s.screenId? with
    | some screen => Session.answer screen input
    | none => throw .noActiveScreen : Play (List Signal)) s = _
  rw [h]
  rfl

private theorem act_click_of_error {e : SessionError} (h : s.item id = .error e) :
    (click id shift).act s = .error e s := by
  unfold act
  simp only [get_bind, h]
  rfl

private theorem act_click_of_ok (h : s.item id = .ok item) :
    (click id shift).act s =
      match item.content.linkActions? with
      | some actions => Session.work ((actions.forClick shift).perform none) s
      | none => .error (s.noItem id) s := by
  obtain ⟨itemId, className, onLoad, content⟩ := item
  unfold act
  cases content <;> simp only [get_bind, h] <;> rfl

end Act

/-- Playing that carries out an action and leaves what the action leaves. -/
def Carries (s : Session) (a : Action) (input? : Option String) (w : World)
    (x : Play (List Signal)) : Prop :=
  match a.perform input? w with
  | .ok signals world => ∃ u, x s = .ok signals u ∧ u.world = world
  | .error e world => ∃ u, x s = .error (.action e) u ∧ u.world = world

/-- Playing that carries out an action leaves the world as the action does, also when it fails. -/
theorem Carries.world_leftBy {a : Action} {input? : Option String} {w : World}
    {x : Play (List Signal)} (h : Carries s a input? w x) :
    (leftBy x s).world = leftBy (a.perform input?) w := by
  unfold Carries at h
  cases hw : a.perform input? w with
  | ok signals after =>
    rw [hw] at h
    obtain ⟨u, played, left⟩ := h
    rw [leftBy_of_ok played, leftBy_of_ok hw, left]
  | error e after =>
    rw [hw] at h
    obtain ⟨u, played, left⟩ := h
    rw [leftBy_of_error played, leftBy_of_error hw, left]

private theorem carries_answer {screen input : String} {a : Action}
    (h : answer? s screen input = some a) :
    Carries s a (some input) (world s (.typeOn screen input)) (Session.answer screen input) := by
  obtain ⟨found, hd, h⟩ := Option.bind_eq_some_iff.mp h
  obtain ⟨p, hp, h⟩ := Option.bind_eq_some_iff.mp h
  obtain ⟨c, hc, h⟩ := Option.bind_eq_some_iff.mp h
  cases h
  have run := Session.dispatchAt_of_some hc
  rw [Command.run_eq] at run
  unfold Carries Session.answer world
  rw [get_bind, hd]
  simp only [hp, input?]
  cases hw : c.action.perform (some input)
      { s.world with store := s.world.store.set lastCommandName (.text input) } with
  | ok signals t =>
    rw [hw] at run
    exact ⟨_, bind_of_ok run _, rfl⟩
  | error e t =>
    rw [hw] at run
    exact ⟨_, bind_of_error run _, rfl⟩

private theorem answer_of_none {screen input : String} (h : answer? s screen input = none) :
    (∃ e, Session.answer screen input s = .error e s) ∨
      ∃ u, Session.answer screen input s = .ok [] u ∧ u.world = s.world := by
  unfold answer? at h
  unfold Session.answer
  rw [get_bind]
  cases hd : s.document.screen? screen with
  | none => exact .inl ⟨_, rfl⟩
  | some found =>
    cases hp : found.prompt? with
    | none =>
      simp only [hp]
      exact .inr ⟨s, rfl, rfl⟩
    | some p =>
      cases hc : (s.dispatcher.choose p input).1 with
      | none =>
        simp only [hp]
        exact .inr ⟨_, bind_of_ok (Session.dispatchAt_of_none hc) _, rfl⟩
      | some c => simp [hd, hp, hc] at h

/-- A request carries out its action before its signals are followed. -/
theorem carries_act {r : Request} {a : Action} (h : r.action? s = some a) :
    Carries s a r.input? (r.world s) r.act := by
  cases r with
  | typeOn screen input => exact carries_answer h
  | type input =>
    obtain ⟨screen, hs, h⟩ := Option.bind_eq_some_iff.mp h
    have carried := carries_answer h
    unfold Carries at carried ⊢
    rw [act_type_of_some hs]
    exact carried
  | click id shift =>
    obtain ⟨item, hi, h⟩ := Option.bind_eq_some_iff.mp h
    obtain ⟨actions, hl, h⟩ := Option.bind_eq_some_iff.mp h
    cases h
    have hi : s.item id = .ok item := by
      cases ht : s.item id with
      | error e => simp [ht, Except.toOption] at hi
      | ok found => simpa [ht, Except.toOption] using hi
    have begins : (actions.forClick shift).perform (click id shift).input?
        (world s (click id shift)) = (actions.forClick shift).perform none s.world := rfl
    unfold Carries
    rw [act_click_of_ok hi, hl, begins]
    cases hw : (actions.forClick shift).perform none s.world with
    | ok signals after => exact ⟨{ s with world := after }, by simp only [Session.work, hw], rfl⟩
    | error e after => exact ⟨{ s with world := after }, by simp only [Session.work, hw], rfl⟩

/-- A request without an action fails at once, or gives no signals and leaves the world. -/
theorem act_of_none {r : Request} (h : r.action? s = none) :
    (∃ e, r.act s = .error e s) ∨ ∃ u, r.act s = .ok [] u ∧ u.world = s.world := by
  cases r with
  | typeOn screen input => exact answer_of_none h
  | type input =>
    cases hs : s.screenId? with
    | none => exact .inl ⟨_, act_type_of_none hs⟩
    | some screen =>
      unfold action? at h
      rw [hs] at h
      rw [act_type_of_some hs]
      exact answer_of_none h
  | click id shift =>
    cases hi : s.item id with
    | error e => exact .inl ⟨e, act_click_of_error hi⟩
    | ok item =>
      rw [act_click_of_ok hi]
      cases hl : item.content.linkActions? with
      | none => exact .inl ⟨_, rfl⟩
      | some actions => simp [action?, hi, hl, Except.toOption] at h

/-- A request leaves the world as its action does, before its signals are followed. -/
theorem world_leftBy_act (s : Session) (r : Request) :
    (leftBy r.act s).world =
      match r.action? s with
      | some a => leftBy (a.perform r.input?) (r.world s)
      | none => s.world := by
  cases ha : r.action? s with
  | some a => exact (carries_act ha).world_leftBy
  | none =>
    rcases act_of_none ha with ⟨e, failed⟩ | ⟨u, acted, left⟩
    · rw [leftBy_of_error failed]
    · rw [leftBy_of_ok acted, left]

/-- The signals that the action of a request gives, and the world that it leaves. A request without
an action gives none. -/
def Gives (s : Session) (r : Request) (signals : List Signal) (after : World) : Prop :=
  match r.action? s with
  | some a => a.perform r.input? (r.world s) = .ok signals after
  | none => signals = [] ∧ after = s.world

/-- What a request gives before its signals are followed is what its action gives. -/
theorem gives_of_act {r : Request} (ok : r.act s = .ok signals u) : r.Gives s signals u.world := by
  unfold Gives
  cases ha : r.action? s with
  | none =>
    rcases act_of_none ha with ⟨e, failed⟩ | ⟨v, acted, left⟩
    · rw [ok] at failed
      cases failed
    · rw [ok] at acted
      cases acted
      exact ⟨rfl, left⟩
  | some a =>
    have carried := carries_act ha
    unfold Carries at carried
    simp only
    split at carried
    · next hw =>
      obtain ⟨v, acted, rfl⟩ := carried
      rw [ok] at acted
      cases acted
      exact hw
    · obtain ⟨v, acted, -⟩ := carried
      rw [ok] at acted
      cases acted

/-- A request whose action succeeds comes to the signals that this gives. -/
theorem act_of_perform {r : Request} {a : Action} {after : World} (h : r.action? s = some a)
    (ok : a.perform r.input? (r.world s) = .ok signals after) :
    ∃ u, r.act s = .ok signals u ∧ u.world = after := by
  have carried := carries_act h
  unfold Carries at carried
  rwa [ok] at carried

end Request

end Teletype
