import Mathlib.Data.List.Basic
import Teletype.Proofs.Document.ItemIds
import Teletype.Proofs.Session.Schedule
/-!
# Changes of variables are made once

A change of a variable that stands outside of a reveal is made when its screen starts, and one that
stands in the reveal when its turn comes. The reveal goes by the places of items but looks a change
up by the id of its item, so it makes the change of the first item with that id. Where every id
finds its own change, each change of the screen is made exactly once.
-/

namespace Teletype

/-- The change of a variable that an item is. -/
def Content.mutation? : Content → Option (String × Mutation)
  | mutate target mutation => some (target, mutation)
  | _ => none

/-- Content of another kind is no change. -/
theorem Content.mutation?_eq_none {c : Content} (h : c.isMutation = false) : c.mutation? = none := by
  cases c with
  | mutate => cases h
  | text | bitmap | link | toggle | prompt | countdown => rfl

namespace Screen

/-- The change that the id of an item finds. -/
def mutation? (screen : Screen) (id : String) : Option (String × Mutation) :=
  (screen.item? id).bind fun item ↦ item.content.mutation?

/-- The changes of variables that stand in the reveal, in order. -/
def revealedMutations (screen : Screen) : List (String × Mutation) :=
  (screen.items.filter Item.onLoad).filterMap fun item ↦ item.content.mutation?

/-- The changes of variables that the ids of the items in the reveal find, in order. -/
def foundMutations (screen : Screen) : List (String × Mutation) :=
  (screen.items.filter Item.onLoad).filterMap fun item ↦ screen.mutation? item.id

/-- The id of every item in the reveal finds the change that the item is. -/
def FindsMutations (screen : Screen) : Prop :=
  ∀ item ∈ screen.items, item.onLoad = true → screen.mutation? item.id = item.content.mutation?

variable {screen : Screen}

/-- Where every id finds its own change, the changes that are found are those of the items. -/
theorem FindsMutations.foundMutations_eq (h : screen.FindsMutations) :
    screen.foundMutations = screen.revealedMutations := by
  refine List.filterMap_congr fun item mem ↦ ?_
  obtain ⟨inside, onLoad⟩ := List.mem_filter.mp mem
  exact h item inside onLoad

/-- Where all ids are different, every id finds its own change. -/
theorem findsMutations_of_nodup (distinct : (screen.items.map Item.id).Nodup) :
    screen.FindsMutations := by
  intro item mem _
  have found : screen.item? item.id = some item :=
    (find?_eq_some_iff_of_nodup distinct).mpr ⟨mem, rfl⟩
  rw [mutation?, found, Option.bind_some]

/-- The changes outside of the reveal are those of the items that are not in it. -/
theorem immediateMutations_eq :
    screen.immediateMutations =
      (screen.items.filter fun item ↦ !item.onLoad).filterMap fun item ↦
        item.content.mutation? := by
  rw [immediateMutations, List.filterMap_filter]
  refine List.filterMap_congr fun item _ ↦ ?_
  cases item.onLoad <;> cases item.content <;> rfl

/-- Every change of the screen stands once outside of the reveal or once in it. -/
theorem mutations_perm :
    (screen.immediateMutations ++ screen.revealedMutations).Perm
      (screen.items.filterMap fun item ↦ item.content.mutation?) := by
  rw [immediateMutations_eq, revealedMutations, ← List.filterMap_append]
  exact (List.perm_append_comm.trans (List.filter_append_perm _ _)).filterMap _

end Screen

/-- Every id finds its own change on a page whose entries give different ids, none of which is one
that is made for a place. -/
theorem Page.findsMutations {p : Page} (own : (p.entries.filterMap Entry.id).Nodup)
    (apart : ∀ id ∈ p.entries.filterMap Entry.id, ∀ place, id ≠ Entry.madeId p.id place) :
    p.screen.FindsMutations :=
  Screen.findsMutations_of_nodup (Page.nodup_ids own apart)

namespace Mutation

/-- Changes that are made after others are made in what the others leave. -/
theorem applyAll_append {first : List (String × Mutation)} {w between : World}
    (made : applyAll first w = .ok () between) (rest : List (String × Mutation)) :
    applyAll (first ++ rest) w = applyAll rest between := by
  induction first generalizing w with
  | nil =>
    cases made
    rfl
  | cons change first ih =>
    obtain ⟨target, mutation⟩ := change
    obtain ⟨_, next, applied, made⟩ := bind_eq_ok_iff.mp made
    rw [List.cons_append, applyAll, bind_of_ok applied, ih made]

end Mutation

namespace Session

variable {s : Session} {screen : Screen}

/-- Measuring an item makes the change that its id finds and no other. -/
theorem applyAll_of_measure {id : String} {w after : World} {length : Nat}
    (measured : s.measure screen id w = .ok length after) :
    Mutation.applyAll (screen.mutation? id).toList w = .ok () after := by
  rw [Screen.mutation?]
  cases found : screen.item? id with
  | none =>
    rw [measure_of_none found] at measured
    cases measured
    rfl
  | some item =>
    rw [Option.bind_some]
    cases kind : item.content.isMutation with
    | true =>
      obtain ⟨target, mutation, content⟩ := Content.exists_of_isMutation kind
      rw [measure_of_mutate found content] at measured
      rw [content]
      split at measured
      · next applied =>
        cases measured
        exact bind_of_ok applied _
      · cases measured
    | false =>
      rw [measure_of_laid found kind] at measured
      rw [Content.mutation?_eq_none kind]
      split at measured
      · cases measured
        rfl
      · cases measured

/-- When all items of a reveal are done, the changes that their ids find have been made in order. -/
theorem applyAll_of_settles {entries : List RevealEntry} {final : List ItemProgress}
    {events : List LifecycleEvent} {w last : World}
    (settled : ScreenRun.Settles (s.measure screen) (entries.map RevealEntry.progress) w final
      events last) :
    Mutation.applyAll ((entries.filter RevealEntry.onLoad).flatMap fun e ↦
      (screen.mutation? e.id).toList) w = .ok () last := by
  induction entries generalizing w final events with
  | nil =>
    cases settled
    rfl
  | cons e entries ih =>
    -- before a reveal an item waits for its turn or is done, and none is active
    have ready_iff : e.progress.state = .ready ↔ e.onLoad = true := by
      cases h : e.onLoad <;> simp [RevealEntry.progress, h]
    have active_never : e.progress.state ≠ .active := by
      cases h : e.onLoad <;> simp [RevealEntry.progress, h]
    cases settled with
    | @ready _ _ _ _ after _ _ _ state_eq measured rest =>
      have first : Mutation.applyAll (screen.mutation? e.id).toList w = .ok () after :=
        applyAll_of_measure measured
      rw [List.filter_cons_of_pos (ready_iff.mp state_eq), List.flatMap_cons]
      exact (Mutation.applyAll_append first _).trans (ih rest)
    | active state_eq rest => exact absurd state_eq active_never
    | done state_eq rest =>
      have waits : ¬ e.onLoad = true := by
        rw [← ready_iff, state_eq]
        exact LoadState.noConfusion
      rw [List.filter_cons_of_neg waits]
      exact ih rest

/-- The changes that the ids in a reveal find are those found for what the reveal knows of its
items. -/
theorem foundMutations_eq_of_revealEntries (speed : Option Nat) :
    (((screen.revealEntries speed).filter RevealEntry.onLoad).flatMap fun e ↦
      (screen.mutation? e.id).toList) = screen.foundMutations := by
  rw [Screen.revealEntries, List.filter_map, ← List.filterMap_eq_flatMap_toList, List.filterMap_map]
  rfl

/-- When every item of a screen is done, the changes outside of its reveal and then those that the
ids in the reveal find have been made, one after another; and where every id finds its own change,
each change of the screen has been made exactly once. -/
theorem changes_variables_once {d : Document} (made : d.IsMade) (mem : screen ∈ d.screens)
    {s₀ s t : Session} (told : s₀.document = d) {opening events : List LifecycleEvent}
    (shown : activate screen.id s₀ = .ok opening s) {calls : List Call}
    (wait : ∀ c ∈ calls, c.isWait = true) (played : playAll calls s = .ok events t)
    (revealed : t.isRevealed = true) :
    Mutation.applyAll (screen.immediateMutations ++ screen.foundMutations) s₀.world =
        .ok () t.world ∧
      (screen.FindsMutations →
        Mutation.applyAll (screen.immediateMutations ++ screen.revealedMutations) s₀.world =
          .ok () t.world) := by
  have found : s₀.document.screen? screen.id = some screen :=
    told ▸ (Document.screen?_eq_some_iff made).mpr ⟨mem, rfl⟩
  obtain ⟨run, world, after, _, immediate, rfl, ahead⟩ := goesOn_of_activate found shown
  have shows : s₀.document.screen? run.screen = some screen := by
    rw [ahead.screen_eq]
    exact found
  obtain ⟨-, -, settled⟩ := settles_of_playAll shows ahead.staged wait played revealed
  have sequenced := applyAll_of_settles (ahead.settles settled)
  rw [foundMutations_eq_of_revealEntries] at sequenced
  have all : Mutation.applyAll (screen.immediateMutations ++ screen.foundMutations) s₀.world =
      .ok () t.world := by
    rw [Mutation.applyAll_append immediate, sequenced]
  exact ⟨all, fun finds ↦ finds.foundMutations_eq ▸ all⟩

end Session

namespace Vault

/-- What is noted on entering the hall, before anything is read. -/
def entering : Item := ⟨"entering", none, false, .mutate "name" ⟨.set, some (.text "here"), none⟩⟩

/-- The story with a text in the hall, and a note before and after it that stand the other way
round. -/
def entered : Document :=
  { document with
    screens := [⟨"hall", .screen, [inscription, reading, entering]⟩, ⟨"vault", .screen, []⟩] }

/-- The session in which the text is being revealed. -/
def enteringHall : Session :=
  ({ opening with document := entered } : Session).after (.activate "hall")

/-- Once the text has been read, both notes have been made, and that on entering came first. -/
theorem notes_made_once :
    Mutation.applyAll [("name", ⟨.set, some (.text "here"), none⟩),
        ("name", ⟨.set, some (.text "read"), none⟩)] opening.world =
      .ok () (enteringHall.afterAll [.tickBy (.ofMillis 15), .tickBy (.ofMillis 15)]).world := by
  have made : entered.IsMade := ⟨{}, {}, entered.screens, [], entered.declarations, rfl⟩
  obtain ⟨opened, shown⟩ : ∃ opened, Session.activate "hall"
      { opening with document := entered } = .ok opened enteringHall :=
    ⟨_, by with_unfolding_all exact rfl⟩
  obtain ⟨events, played⟩ : ∃ events,
      Session.playAll [.tickBy (.ofMillis 15), .tickBy (.ofMillis 15)] enteringHall =
        .ok events (enteringHall.afterAll [.tickBy (.ofMillis 15), .tickBy (.ofMillis 15)]) :=
    ⟨_, by with_unfolding_all exact rfl⟩
  have once := (Session.changes_variables_once made List.mem_cons_self rfl shown (by decide) played
    (by decide +kernel)).2
  exact once (Screen.findsMutations_of_nodup (by decide))

/-- The beginning of a document with a hall. -/
def hallText : String := "\x7b\"screens\":[\x7b\"id\":\"hall\",\"content\":["

/-- The beginning of a count of coins that has an id. -/
def coinsText : String := "\x7b\"type\":\"variable\",\"id\":\"hall-1\",\"target\":\"coins\","

/-- The beginning of a second count, one of keys, that has none. -/
def keysText : String := ",\x7b\"type\":\"variable\",\"target\":\"keys\","

/-- The end of a count. -/
def countText : String := "\"context\":\x7b\"action\":\"increment\"\x7d\x7d"

/-- The end of a document with a hall. -/
def endText : String := "]\x7d]\x7d"

/-- A document whose hall has two counts. The first has the id that is made for the second. -/
def doubledText : String :=
  hallText ++ coinsText ++ countText ++ keysText ++ countText ++ endText

/-- An entry that counts a variable. -/
def countEntry (id : Option String) (target : String) : Entry :=
  { id, content := some (.mutate target ⟨.count .increment, none, none⟩) }

/-- An entry that counts a variable, as it is written. -/
def countJson (id : Option String) (target : String) : Json :=
  .object ([("type", .string "variable")] ++ (id.map fun id ↦ ("id", Json.string id)).toList ++
    [("target", .string target), ("context", .object [("action", .string "increment")])])

/-- The page with the two counts. -/
def doubledPage : Page :=
  ⟨"hall", .screen, [countEntry (some "hall-1") "coins", countEntry none "keys"]⟩

/-- The page with the two counts, as it is written. -/
def doubledJson : Json :=
  .object [("screens", .array [.object [("id", .string "hall"), ("content", .array
    [countJson (some "hall-1") "coins", countJson none "keys"])]])]

/-- The document with that page. -/
def doubled : Document :=
  { document with
    screens := [doubledPage.screen]
    declarations := []
    screenTable := (∅ : IdTable).insert "hall" 0 }

set_option maxRecDepth 20000 in
/-- The document is written by the text. -/
theorem ofText_doubledText : Document.ofText doubledText = .ok doubled := by
  have json : Json.ofText? doubledText = some doubledJson := by
    simp only [Json.ofText?, doubledText, String.toList_append]
    -- a literal gives its characters by rewriting, which is fast, and not by evaluation
    rw [hallText, coinsText, keysText, countText, endText]
    repeat rw [String.toList_ofList]
    rfl
  have parts : Manuscript.ofJson? doubledJson = some ⟨{}, {}, [doubledPage], [], []⟩ := by
    with_unfolding_all rfl
  have read : (Json.ofText? doubledText >>= Manuscript.ofJson?) =
      some ⟨{}, {}, [doubledPage], [], []⟩ := by
    rw [json]
    exact parts
  rw [Document.ofText, read]
  rfl

/-- The session in which the hall with the two counts shows. -/
def counting : Session := ({ opening with document := doubled } : Session).after (.activate "hall")

/-- The hall is shown to its end and the keys have not been counted, although the changes of the
hall count them once. -/
theorem keys_never_counted :
    Document.ofText doubledText = .ok doubled ∧ doubledPage.screen ∈ doubled.screens ∧
      (∃ opened, Session.activate "hall" { opening with document := doubled } =
        .ok opened counting) ∧
      Session.playAll [] counting = .ok [] counting ∧ counting.isRevealed = true ∧
      Mutation.applyAll (doubledPage.screen.immediateMutations ++ doubledPage.screen.revealedMutations)
        opening.world ≠ .ok () counting.world := by
  have never : counting.world.store.get? "keys" = none := by with_unfolding_all exact rfl
  obtain ⟨w, once, counted⟩ : ∃ w, Mutation.applyAll (doubledPage.screen.immediateMutations ++
      doubledPage.screen.revealedMutations) opening.world = .ok () w ∧
        (w.store.get? "keys").isSome = true :=
    ⟨_, by with_unfolding_all exact rfl, by with_unfolding_all exact rfl⟩
  refine ⟨ofText_doubledText, List.mem_cons_self, ⟨_, by with_unfolding_all exact rfl⟩, rfl,
    by decide +kernel, fun same ↦ ?_⟩
  rw [once] at same
  cases same
  rw [never] at counted
  cases counted

end Vault

end Teletype
