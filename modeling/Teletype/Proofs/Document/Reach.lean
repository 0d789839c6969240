import Mathlib.Logic.Relation
import Teletype.Proofs.Action.Links
import Teletype.Proofs.Command.Choice
import Teletype.Proofs.Document.Tables
/-!
# The screens that links lead to

The search from the first screen passes over ids that no screen has and over those that it has met
before. It ends with the screens that a chain of links leads to, each link standing in the screen
before, be it deep in a branch; the screens that it leaves out are those that nothing leads to.
-/

namespace Teletype

section Reach

variable {next : String → List String} {remaining pending : List String}

private theorem holds_of_mem_reach {p : String → Prop}
    (starts : ∀ start ∈ pending, start ∈ remaining → p start)
    (steps : ∀ node, p node → ∀ other ∈ next node, other ∈ remaining → p other) :
    ∀ node ∈ reach next remaining pending, p node := by
  fun_induction reach next remaining pending with
  | case1 => simp
  | case2 remaining pending first found ih =>
    have waiting : first ∈ pending := List.mem_of_find?_eq_some found
    have fresh : first ∈ remaining := List.contains_iff_mem.mp (List.find?_some found)
    have holds : p first := starts first waiting fresh
    intro node member
    rcases List.mem_cons.mp member with rfl | member
    · exact holds
    · refine ih ?_ (fun node hn other ho hr ↦ steps node hn other ho (List.mem_of_mem_erase hr))
        node member
      intro start hs hr
      have hr := List.mem_of_mem_erase hr
      rcases List.mem_append.mp hs with hs | hs
      · exact steps first holds start hs hr
      · exact starts start hs hr

/-- What remains and is pending, or what a found node leads to, is found. -/
private theorem mem_reach_of_remaining {node : String} (fresh : node ∈ remaining)
    (h : node ∈ pending ∨ ∃ other ∈ reach next remaining pending, node ∈ next other) :
    node ∈ reach next remaining pending := by
  fun_induction reach next remaining pending with
  | case1 remaining pending none =>
    rcases h with waiting | ⟨_, member, -⟩
    · exact absurd (List.contains_iff_mem.mpr fresh) (List.find?_eq_none.mp none node waiting)
    · cases member
  | case2 remaining pending first found ih =>
    by_cases same : node = first
    · exact same ▸ List.mem_cons_self
    · refine List.mem_cons_of_mem first (ih ((List.mem_erase_of_ne same).mpr fresh) ?_)
      rcases h with waiting | ⟨other, member, link⟩
      · exact .inl (List.mem_append_right _ waiting)
      · rcases List.mem_cons.mp member with rfl | member
        · exact .inl (List.mem_append_left _ link)
        · exact .inr ⟨other, member, link⟩

/-- The search finds what can be reached from a pending node through nodes that remain. -/
theorem mem_reach_iff {node : String} :
    node ∈ reach next remaining pending ↔ ∃ start ∈ pending, start ∈ remaining ∧
      Relation.ReflTransGen (fun a b ↦ b ∈ next a ∧ b ∈ remaining) start node := by
  constructor
  · refine holds_of_mem_reach (p := fun node ↦ ∃ start ∈ pending, start ∈ remaining ∧
      Relation.ReflTransGen (fun a b ↦ b ∈ next a ∧ b ∈ remaining) start node) ?_ ?_ node
    · exact fun start waiting fresh ↦ ⟨start, waiting, fresh, .refl⟩
    · rintro node ⟨start, waiting, fresh, path⟩ other link here
      exact ⟨start, waiting, fresh, path.tail ⟨link, here⟩⟩
  · rintro ⟨start, waiting, fresh, path⟩
    induction path with
    | refl => exact mem_reach_of_remaining fresh (.inl waiting)
    | tail _ link ih => exact mem_reach_of_remaining link.2 (.inr ⟨_, ih, link.1⟩)

-- a link that leads nowhere and one that leads back are passed over
example : reach (fun id ↦ if id = "hall" then ["vault", "nowhere", "hall"] else [])
    ["hall", "attic", "vault"] ["hall"] = ["hall", "vault"] := by decide +kernel

end Reach

/-- An action that a player can start at an item: that of a link, with or without the shift key, or
that of a command at a prompt. -/
inductive Content.Offers : Content → Action → Prop
  | link {text : String} {actions : LinkActions} {options : TextOptions} :
    Offers (.link text actions options) actions.base
  | shiftLink {text : String} {actions : LinkActions} {options : TextOptions} {a : Action}
    (alternative : actions.shift = some a) : Offers (.link text actions options) a
  | command {p : Prompt} {c : Command} (member : c ∈ p.commands) : Offers (.prompt p) c.action

/-- The actions that a player can start at an item are those that are listed. -/
theorem Content.offers_iff {content : Content} {a : Action} :
    content.Offers a ↔ a ∈ content.actions := by
  constructor
  · rintro (_ | alternative | member)
    · exact List.mem_cons_self
    · exact List.mem_cons_of_mem _ (by simp [alternative])
    · exact List.mem_map_of_mem member
  · intro h
    cases content with
    | link text actions options =>
      rcases List.mem_cons.mp h with rfl | h
      · exact .link
      · exact .shiftLink (Option.mem_toList.mp h)
    | prompt p =>
      obtain ⟨c, member, rfl⟩ := List.mem_map.mp h
      exact .command member
    | text | bitmap | toggle | countdown | mutate => cases h

/-- What a click does can be started at the link. -/
theorem Content.Offers.forClick {text : String} {actions : LinkActions} {options : TextOptions}
    (shift : Bool) : Offers (.link text actions options) (actions.forClick shift) := by
  cases shift with
  | false => exact .link
  | true =>
    cases ha : actions.shift with
    | none => simpa [LinkActions.forClick, ha] using Offers.link
    | some a => simpa [LinkActions.forClick, ha] using Offers.shiftLink ha

/-- A link to a screen stands in an action that a player can start at an item. -/
def Screen.LinksTo (screen : Screen) (target : String) : Prop :=
  ∃ item ∈ screen.items, ∃ a, item.content.Offers a ∧ a.LinksTo target

/-- What a command at the prompt of a screen links to is linked to by the screen. -/
theorem Screen.linksTo_of_prompt? {screen : Screen} {p : Prompt} {c : Command} {target : String}
    (prompt : screen.prompt? = some p) (member : c ∈ p.commands) (links : c.action.LinksTo target) :
    screen.LinksTo target := by
  obtain ⟨item, hm, hc⟩ := Screen.exists_of_prompt? prompt
  exact ⟨item, hm, c.action, hc ▸ .command member, links⟩

private theorem Step.mem_filterMap_linkTarget? {steps : List Step} {target : String} :
    target ∈ steps.filterMap Step.linkTarget? ↔ ∃ shift, Step.link target shift ∈ steps := by
  rw [List.mem_filterMap]
  constructor
  · rintro ⟨step, member, named⟩
    cases step with
    | link other shift =>
      cases named
      exact ⟨shift, member⟩
    | dialog | toggle | mutate | branch | unknown => cases named
  · rintro ⟨shift, member⟩
    exact ⟨_, member, rfl⟩

/-- The links of a screen are its exits. -/
theorem Screen.linksTo_iff {screen : Screen} {target : String} :
    screen.LinksTo target ↔ target ∈ screen.exits := by
  simp only [LinksTo, exits, List.mem_flatMap, Step.mem_filterMap_linkTarget?, Item.everyStep,
    Action.linksTo_iff, Content.offers_iff]
  constructor
  · rintro ⟨item, hi, a, ha, shift, hs⟩
    exact ⟨item, hi, shift, a, ha, hs⟩
  · rintro ⟨item, hi, shift, a, ha, hs⟩
    exact ⟨item, hi, a, ha, shift, hs⟩

namespace Document

/-- A screen of the document has a link to another one. -/
structure Leads (d : Document) (source target : Screen) : Prop where
  source_mem : source ∈ d.screens
  target_mem : target ∈ d.screens
  links : source.LinksTo target.id

/-- A chain of links leads from the first screen to a screen. -/
def Reaches (d : Document) (screen : Screen) : Prop :=
  ∃ first, d.screens.head? = some first ∧ Relation.ReflTransGen d.Leads first screen

variable {d : Document} (made : d.IsMade)

/-- A screen that links lead to belongs to the document. -/
theorem Reaches.mem {screen : Screen} (h : d.Reaches screen) : screen ∈ d.screens := by
  obtain ⟨first, hfirst, path⟩ := h
  cases path with
  | refl => exact List.mem_of_head? hfirst
  | tail _ link => exact link.target_mem

/-- A link leads on from a screen that links lead to. -/
theorem Reaches.leads {screen other : Screen} (h : d.Reaches screen) (link : d.Leads screen other) :
    d.Reaches other := by
  obtain ⟨first, hfirst, path⟩ := h
  exact ⟨first, hfirst, path.tail link⟩

include made

private theorem mem_exits_iff {source : Screen} (member : source ∈ d.screens) {target : String} :
    target ∈ d.exits source.id ↔ source.LinksTo target := by
  have found : d.screen? source.id = some source := (screen?_eq_some_iff made).mpr ⟨member, rfl⟩
  rw [exits, found, Screen.linksTo_iff]
  rfl

private theorem exists_reaches_of_exits {first : Screen} (hfirst : d.screens.head? = some first)
    {id : String} (path : Relation.ReflTransGen
      (fun a b ↦ b ∈ d.exits a ∧ b ∈ d.screens.map Screen.id) first.id id) :
    ∃ screen, d.Reaches screen ∧ screen.id = id := by
  induction path with
  | refl => exact ⟨first, ⟨first, hfirst, .refl⟩, rfl⟩
  | tail _ link ih =>
    obtain ⟨source, reaches, rfl⟩ := ih
    obtain ⟨target, member, rfl⟩ := List.mem_map.mp link.2
    have links := (mem_exits_iff made reaches.mem).mp link.1
    exact ⟨target, reaches.leads ⟨reaches.mem, member, links⟩, rfl⟩

private theorem exits_of_leads {first screen : Screen}
    (path : Relation.ReflTransGen d.Leads first screen) :
    Relation.ReflTransGen (fun a b ↦ b ∈ d.exits a ∧ b ∈ d.screens.map Screen.id)
      first.id screen.id := by
  induction path with
  | refl => exact .refl
  | tail _ link ih =>
    have exit := (mem_exits_iff made link.source_mem).mpr link.links
    exact ih.tail ⟨exit, List.mem_map_of_mem link.target_mem⟩

/-- The search ends with the screens that a chain of links leads to. -/
theorem mem_reachable_iff {screen : Screen} (member : screen ∈ d.screens) :
    screen.id ∈ d.reachable ↔ d.Reaches screen := by
  rw [reachable, mem_reach_iff]
  constructor
  · rintro ⟨start, waiting, -, path⟩
    obtain ⟨first, hfirst, rfl⟩ := Option.map_eq_some_iff.mp (Option.mem_toList.mp waiting)
    obtain ⟨other, reaches, same⟩ := exists_reaches_of_exits made hfirst path
    exact eq_of_id_eq made reaches.mem member same ▸ reaches
  · rintro ⟨first, hfirst, path⟩
    have waiting : first.id ∈ (d.startScreen?.map Screen.id).toList :=
      Option.mem_toList.mpr (Option.map_eq_some_iff.mpr ⟨first, hfirst, rfl⟩)
    have known := List.mem_map_of_mem (f := Screen.id) (List.mem_of_head? hfirst)
    exact ⟨first.id, waiting, known, exits_of_leads made path⟩

open Classical in
/-- The screens that the search leaves out are those that no chain of links leads to, in order. -/
theorem unreachable_eq :
    d.unreachable = (d.screens.filter fun screen ↦ ¬ d.Reaches screen).map Screen.id := by
  rw [unreachable, List.filter_map]
  congr 1
  refine List.filter_congr fun screen member ↦ ?_
  have same := mem_reachable_iff made member
  simp [same]

/-- No chain of links leads to a screen that the search leaves out. -/
theorem not_reaches_of_mem_unreachable {screen : Screen} (h : screen.id ∈ d.unreachable) :
    ¬ d.Reaches screen := by
  intro reaches
  obtain ⟨-, missed⟩ := List.mem_filter.mp h
  simp [(mem_reachable_iff made reaches.mem).mpr reaches] at missed

end Document

end Teletype
