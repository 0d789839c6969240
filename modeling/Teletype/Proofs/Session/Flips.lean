import Mathlib.Data.List.Induction
import Teletype.Proofs.Action.Flips
import Teletype.Proofs.Session.Lasting
/-!
# Toggles in play

Toggles are flipped by the host and by the actions of links and commands, of which some fail behind
flips that they have carried out. Nothing else changes the toggles. Which state of a toggle shows
can therefore be told from the document and from the number of its flips.
-/

namespace Teletype

/-- The states of an item that is a toggle. -/
def Content.toggleStates? : Content → Option (List ToggleState)
  | .toggle states _ => some states
  | .text .. | .bitmap .. | .link .. | .prompt _ | .countdown _ | .mutate .. => none

namespace Document

/-- The states of the toggle of an id. Of several items with the id the last toggle counts. -/
def toggleStates? (d : Document) (id : String) : Option (List ToggleState) :=
  d.items.reverse.findSome? fun item ↦
    if item.id = id then item.content.toggleStates? else none

end Document

namespace ToggleBoard

/-- A toggle that is put on the board takes the place of any other of its id. -/
theorem getElem?_register (b : ToggleBoard) (id other : String) (states : List ToggleState) :
    (b.register id states).slots[other]? =
      if id = other then some (.ofStates states) else b.slots[other]? := by
  simp [register, Std.ExtTreeMap.getElem?_insert]

/-- The toggles of a board are put on it one after another. -/
theorem ofToggles_concat (toggles : List (String × List ToggleState)) (id : String)
    (states : List ToggleState) :
    ofToggles (toggles ++ [(id, states)]) = (ofToggles toggles).register id states :=
  List.foldl_append

/-- The board of a document has the toggles that its items are, each as it starts. -/
theorem getElem?_ofToggles (d : Document) (id : String) :
    (ofToggles d.toggles).slots[id]? = (d.toggleStates? id).map ToggleSlot.ofStates := by
  unfold Document.toggles Document.toggleStates?
  -- the last item comes last on the board and first in the search
  induction d.items using List.reverseRecOn with
  | nil => rfl
  | append_singleton items item ih =>
    rw [List.filterMap_append, List.reverse_append, List.reverse_singleton, List.singleton_append,
      List.findSome?_cons]
    obtain ⟨itemId, className, onLoad, content⟩ := item
    cases content with
    | toggle states options =>
      refine (congrArg (·.slots[id]?) (ofToggles_concat _ itemId states)).trans ?_
      rw [getElem?_register, ih]
      by_cases same : itemId = id <;> simp [same, Content.toggleStates?]
    | text | bitmap | link | prompt | countdown | mutate =>
      simpa [Content.toggleStates?] using ih

end ToggleBoard

/-- The flips that the action of a request carries out. -/
def Request.flips (s : Session) (r : Request) : List String :=
  match r.action? s with
  | some a => a.flips r.input? (r.world s)
  | none => []

/-- The flips that a call carries out. -/
def Call.flips (s : Session) : Call → List String
  | request r => r.flips s
  | flip id => [id]
  | begin | activate _ | tick | tickBy _ | skip | dismiss | resize _ | restore _ | write _ => []

namespace Session

variable {s : Session}

/-- The flips that several calls carry out, in order. -/
def flips (s : Session) : List Call → List String
  | [] => []
  | c :: calls => c.flips s ++ (s.after c).flips calls

/-- The changes of variables among the items of a document leave the toggles. -/
theorem changesKeep_toggles (d : Document) (board : ToggleBoard) :
    d.ChangesKeep fun w ↦ w.toggles = board :=
  fun _ _ target m _ ↦ m.preserves_toggles board target none

/-- Playing that keeps the toggles of a session leaves them there, also when it fails. -/
theorem toggles_leftBy {α : Type} {x : Play α}
    (keeps : Lasts s.document s.dispatcher.hostCommands (fun w ↦ w.toggles = s.world.toggles) x) :
    (leftBy x s).world.toggles = s.world.toggles :=
  (keeps.leftBy ⟨rfl, rfl, rfl⟩).world

/-- Acting on a request leaves the toggles as the flips of its action do. -/
theorem toggles_leftBy_act (s : Session) (r : Request) :
    (leftBy r.act s).world.toggles = s.world.toggles.flipAll (r.flips s) := by
  have begins : (r.world s).toggles = s.world.toggles := by
    unfold Request.world
    split <;> rfl
  rw [Request.world_leftBy_act, Request.flips]
  cases r.action? s with
  | none => rfl
  | some a => exact (a.toggles_leftBy_perform _).trans (by rw [begins])

/-- A request leaves the toggles as the flips of its action do, wherever it leads. -/
theorem toggles_leftBy_play (s : Session) (r : Request) :
    (leftBy r.play s).world.toggles = s.world.toggles.flipAll (r.flips s) := by
  have acted := toggles_leftBy_act s r
  rw [r.play_eq]
  cases h : r.act s with
  | error e t =>
    rw [leftBy_bind_of_error h]
    rwa [leftBy_of_error h] at acted
  | ok signals t =>
    have followed := toggles_leftBy (s := t)
      (holding_follow (changesKeep_toggles t.document t.world.toggles) signals)
    rw [leftBy_of_ok h] at acted
    rw [leftBy_bind_of_ok h, leftBy_bind_pure (follow signals) fun _ ↦ signals, followed, acted]

/-- A call leaves the toggles as its flips do, whether it succeeds or fails. -/
theorem toggles_after (s : Session) (c : Call) :
    (s.after c).world.toggles = s.world.toggles.flipAll (c.flips s) := by
  have changes := changesKeep_toggles s.document s.world.toggles
  rw [after_eq_leftBy]
  cases c with
  | request r =>
    rw [Call.play, leftBy_bind_pure r.play fun _ ↦ []]
    exact toggles_leftBy_play s r
  | begin => exact toggles_leftBy (keeps_get.bind fun t _ ↦ holding_activate changes t.start)
  | activate id => exact toggles_leftBy (holding_activate changes id)
  | tick => exact toggles_leftBy (keeps_get.bind fun t _ ↦ holding_tickBy changes t.tickInterval)
  | tickBy elapsed => exact toggles_leftBy (holding_tickBy changes elapsed)
  | skip => exact toggles_leftBy (keeps_get.bind fun _ _ ↦ holding_skipSteps changes _)
  | flip | dismiss | resize | restore | write => rfl

/-- Calls leave the toggles as all their flips do. -/
theorem toggles_afterAll (s : Session) (calls : List Call) :
    (s.afterAll calls).world.toggles = s.world.toggles.flipAll (s.flips calls) := by
  induction calls generalizing s with
  | nil => rfl
  | cons c calls ih =>
    rw [flips, ToggleBoard.flipAll_append, ← toggles_after]
    exact ih (s.after c)

/-- In any calls on a session that has been set up the toggle of an id is the one of the document,
as its flips have turned it. -/
theorem getElem?_toggles_afterAll {setup : Setup} (opened : setup.session = .ok s)
    (calls : List Call) (id : String) :
    (s.afterAll calls).world.toggles.slots[id]? =
      (s.document.toggleStates? id).map fun states ↦
        ToggleSlot.flip^[(s.flips calls).count id] (.ofStates states) := by
  obtain ⟨settings, opens⟩ := Setup.exists_opensFrom opened
  have starts : s.world.toggles = .ofToggles s.document.toggles := by rw [opens.world]
  rw [toggles_afterAll, starts, ToggleBoard.getElem?_flipAll, ToggleBoard.getElem?_ofToggles,
    Option.map_map]
  rfl

/-- Toggles go round. In any calls on a session that has been set up, of which some may fail, an id
has a toggle exactly if an item of the document with the id is one. Of several such items the last
one counts. Without states it stays at its first place; with some it has gone on from the first
state that is marked as active, or else from the first one, as often as it was flipped, and from the
last state to the first. A flip of another id leaves it where it is. -/
theorem active?_toggles_afterAll {setup : Setup} (opened : setup.session = .ok s)
    (calls : List Call) (id : String) :
    ((s.afterAll calls).world.toggles.contains id = (s.document.toggleStates? id).isSome) ∧
    ((s.afterAll calls).world.toggles.active? id =
      (s.document.toggleStates? id).map fun states ↦
        if states = [] then 0
        else ((states.findIdx? ToggleState.active).getD 0 + (s.flips calls).count id) %
          states.length) ∧
    ∀ other ≠ id, ((s.afterAll calls).flip other).world.toggles.active? id =
      (s.afterAll calls).world.toggles.active? id := by
  have slot := getElem?_toggles_afterAll opened calls id
  refine ⟨?_, ?_, fun other different ↦ ToggleBoard.active?_flip_of_ne _ different⟩
  · rw [ToggleBoard.contains, Std.ExtTreeMap.contains_eq_isSome_getElem?, slot, Option.isSome_map]
  · rw [ToggleBoard.active?, slot, Option.map_map]
    refine Option.map_congr fun states _ ↦ ?_
    by_cases stateless : states = []
    · subst stateless
      have stays : (ToggleSlot.ofStates []).flip = .ofStates [] := ToggleSlot.flip_of_count rfl
      rw [if_pos rfl, Function.comp_apply, Function.iterate_fixed stays]
      rfl
    · rw [if_neg stateless]
      exact ToggleSlot.active_iterate_flip (ToggleSlot.active_ofStates_lt stateless) _

end Session

namespace Vault

/-- A lamp, of which there may be several. -/
def lamp (states : List ToggleState) : Item := ⟨"lamp", none, true, .toggle states {}⟩

/-- A switch that turns the lamp and then fails. -/
def switch : Item :=
  ⟨"switch", none, true, .link "" ⟨.chain [.toggle "lamp", .unknown, .toggle "lamp"], none⟩ {}⟩

/-- A fuse without states. -/
def fuse : Item := ⟨"fuse", none, true, .toggle [] {}⟩

/-- The story with a lamp in the hall and another one of the same id in the vault, which is dim at
first. -/
def lit : Document :=
  { document with
    screens := [
      ⟨"hall", .screen, [lamp [⟨"off", false, none, none⟩, ⟨"on", false, none, none⟩], switch]⟩,
      ⟨"vault", .screen, [lamp [⟨"off", false, none, none⟩, ⟨"dim", true, none, none⟩,
        ⟨"bright", false, none, none⟩], fuse]⟩] }

/-- The session in which nothing has been turned yet. -/
def dimmed : Session :=
  { opening with
    document := lit
    world := { opening.world with toggles := .ofToggles lit.toggles } }

/-- The switch turns the lamp on its way to a failure, and the host turns what there is and what
there is not. -/
def turns : List Call :=
  [.begin, .request (.click "switch" false), .flip "ghost", .flip "fuse", .flip "lamp"]

/-- Two turns take the lamp of the vault from its second state past its last one to the first. -/
theorem active?_turns :
    ({ document := .given lit } : Setup).session = .ok dimmed ∧
      dimmed.failures turns = [.action .unknownStep] ∧
      dimmed.flips turns = ["lamp", "ghost", "fuse", "lamp"] ∧
      (dimmed.afterAll turns).world.toggles.active? "lamp" = some 0 ∧
      (dimmed.afterAll turns).world.toggles.active? "fuse" = some 0 ∧
      (dimmed.afterAll turns).world.toggles.contains "ghost" = false := by
  have made : ({ document := .given lit } : Setup).session = .ok dimmed := rfl
  have failed : dimmed.failures turns = [.action .unknownStep] := by
    with_unfolding_all exact rfl
  have flips : dimmed.flips turns = ["lamp", "ghost", "fuse", "lamp"] := by
    with_unfolding_all exact rfl
  obtain ⟨-, turned, -⟩ := Session.active?_toggles_afterAll made turns "lamp"
  obtain ⟨-, stayed, -⟩ := Session.active?_toggles_afterAll made turns "fuse"
  obtain ⟨absent, -, -⟩ := Session.active?_toggles_afterAll made turns "ghost"
  rw [flips] at turned stayed
  exact ⟨made, failed, flips, turned, stayed, absent⟩

end Vault

end Teletype
