import Mathlib.Data.List.Nodup
import Teletype.Proofs.Document.Tables
import Teletype.Text.Split
/-!
# The ids of items

An item without an id of its own gets one that is made of the id of its screen, a dash and the place
of its entry. Digits have no dash among them, so the last dash of a made id tells the screen from
the place, and made ids are as different as the places of the document.
-/

namespace Teletype

namespace Entry

/-- The id that is made for the entry at a place of a page. -/
def madeId (page : String) (place : Nat) : String := page ++ "-" ++ Decimal.natText place

variable {page : String}

/-- No dash stands among the digits of a number. -/
private theorem dash_not_mem_toDigits (n : Nat) : '-' ∉ Nat.toDigits 10 n := by
  intro mem
  have digit := Nat.isDigit_of_mem_toDigits (by decide) (by decide) mem
  exact absurd digit (by decide)

/-- The digits and the page of a made id are found again at its last dash. -/
private theorem splitAtFirst_madeId (page : String) (place : Nat) :
    Text.splitAtFirst '-' (madeId page place).toList.reverse =
      some ((Nat.toDigits 10 place).reverse, page.toList.reverse) := by
  have characters : (madeId page place).toList.reverse =
      (Nat.toDigits 10 place).reverse ++ '-' :: page.toList.reverse := by
    simp [madeId, Decimal.natText]
  rw [characters]
  exact Text.splitAtFirst_append (by simpa using dash_not_mem_toDigits place) _

/-- Ids are made alike only for the same place of pages with the same id, even where the ids of
pages end in dashes and digits themselves. -/
theorem madeId_inj {other : String} {place spot : Nat} :
    madeId page place = madeId other spot ↔ page = other ∧ place = spot := by
  constructor
  · intro same
    have parts := splitAtFirst_madeId page place
    rw [same, splitAtFirst_madeId] at parts
    simp only [Option.some.injEq, Prod.mk.injEq, List.reverse_inj, String.toList_inj] at parts
    obtain ⟨digits, pages⟩ := parts
    refine ⟨pages.symm, ?_⟩
    rw [← Nat.ofDigitChars_ten_toDigits (n := place), ← digits, Nat.ofDigitChars_ten_toDigits]
  · rintro ⟨rfl, rfl⟩
    rfl

/-- An item has the id that its entry gives, or else the one that is made for its place. -/
theorem id_of_item? {e : Entry} {place : Nat} {item : Item} (h : e.item? page place = some item) :
    item.id = e.id.getD (madeId page place) := by
  obtain ⟨content, -, rfl⟩ := Option.map_eq_some_iff.mp h
  rfl

/-- An id of an item behind a place is one that an entry gives, or else one that is made for that
place or a later one. -/
theorem given_or_made {entries : List Entry} {first : Nat} {id : String}
    (mem : id ∈ ((entries.zipIdx first).filterMap fun (e, place) ↦
      e.item? page place).map Item.id) :
    id ∈ entries.filterMap Entry.id ∨ ∃ place, first ≤ place ∧ id = madeId page place := by
  obtain ⟨item, inside, rfl⟩ := List.mem_map.mp mem
  obtain ⟨⟨e, place⟩, later, made⟩ := List.mem_filterMap.mp inside
  rw [id_of_item? made]
  cases given : e.id with
  | some id =>
    exact .inl (List.mem_filterMap.mpr ⟨e, List.fst_mem_of_mem_zipIdx later, given⟩)
  | none => exact .inr ⟨place, List.le_snd_of_mem_zipIdx later, rfl⟩

/-- The items of entries have different ids where those that the entries give are different and none
of them is one that is made for a place. -/
theorem nodup_ids {entries : List Entry} (own : (entries.filterMap Entry.id).Nodup)
    (apart : ∀ id ∈ entries.filterMap Entry.id, ∀ place, id ≠ madeId page place) (first : Nat) :
    (((entries.zipIdx first).filterMap fun (e, place) ↦ e.item? page place).map Item.id).Nodup := by
  induction entries generalizing first with
  | nil => exact List.nodup_nil
  | cons e entries ih =>
    have behind : (entries.filterMap Entry.id).Sublist ((e :: entries).filterMap Entry.id) :=
      (List.sublist_cons_self e entries).filterMap Entry.id
    have rest := ih (own.sublist behind) (fun id mem ↦ apart id (behind.subset mem)) (first + 1)
    rw [List.zipIdx_cons, List.filterMap_cons]
    cases made : e.item? page first with
    | none => simpa only [made] using rest
    | some item =>
      simp only [made, List.map_cons, List.nodup_cons]
      refine ⟨fun mem ↦ ?_, rest⟩
      -- each of two equal ids is given or made, and ids behind are made for later places
      rw [id_of_item? made] at mem
      cases given : e.id with
      | none =>
        rw [given] at mem
        rcases given_or_made mem with mem | ⟨place, later, same⟩
        · exact apart _ (behind.subset mem) first rfl
        · have : first = place := (madeId_inj.mp same).2
          omega
      | some id =>
        rw [given] at mem
        rw [List.filterMap_cons_some given] at own apart
        rcases given_or_made mem with mem | ⟨place, -, same⟩
        · exact (List.nodup_cons.mp own).1 mem
        · exact apart id List.mem_cons_self place same

end Entry

/-- The items of a page have different ids where those that its entries give are different and none
of them is one that is made for a place. -/
theorem Page.nodup_ids {p : Page} (own : (p.entries.filterMap Entry.id).Nodup)
    (apart : ∀ id ∈ p.entries.filterMap Entry.id, ∀ place, id ≠ Entry.madeId p.id place) :
    (p.screen.items.map Item.id).Nodup :=
  Entry.nodup_ids own apart 0

/-! ## Numbering -/

/-- Items that stand for the entries of a page which have content, in order, each with the id that
is made for the place of its entry. -/
structure Page.Numbers (p : Page) (items : List Item) (places : List Nat) : Prop where
  /-- The items are in the order of the entries. -/
  ordered : places.Pairwise (· < ·)
  /-- An entry without content leaves a gap. -/
  mem_iff : ∀ place, place ∈ places ↔ ∃ e, p.entries[place]? = some e ∧ e.content.isSome = true
  ids_eq : items.map Item.id = places.map (Entry.madeId p.id)
  contents_eq : (items.map fun item ↦ some item.content) =
    places.map fun place ↦ p.entries[place]?.bind Entry.content

namespace Page

variable {p : Page}

/-- The places of the entries that have content. -/
def places (p : Page) : List Nat :=
  p.entries.zipIdx.filterMap fun (e, place) ↦ e.content.map fun _ ↦ place

/-- The items of a page whose entries give no ids are numbered by the places of the entries. -/
theorem numbers_places (bare : ∀ e ∈ p.entries, e.id = none) :
    p.Numbers p.screen.items p.places where
  ordered := by
    have rising : (p.entries.zipIdx.map Prod.snd).Pairwise (· < ·) := by
      rw [List.zipIdx_map_snd]
      exact List.pairwise_lt_range' 1
    refine List.pairwise_filterMap.mpr ((List.pairwise_map.mp rising).imp ?_)
    intro a b before place here other there
    obtain ⟨_, -, rfl⟩ := Option.map_eq_some_iff.mp here
    obtain ⟨_, -, rfl⟩ := Option.map_eq_some_iff.mp there
    exact before
  mem_iff place := by
    constructor
    · intro mem
      obtain ⟨⟨e, spot⟩, inside, some_content⟩ := List.mem_filterMap.mp mem
      obtain ⟨content, has, rfl⟩ := Option.map_eq_some_iff.mp some_content
      exact ⟨e, List.mk_mem_zipIdx_iff_getElem?.mp inside, by rw [has]; rfl⟩
    · rintro ⟨e, stands, has⟩
      obtain ⟨content, has⟩ := Option.isSome_iff_exists.mp has
      exact List.mem_filterMap.mpr ⟨(e, place), List.mk_mem_zipIdx_iff_getElem?.mpr stands,
        Option.map_eq_some_iff.mpr ⟨content, has, rfl⟩⟩
  ids_eq := by
    rw [screen, places, List.map_filterMap, List.map_filterMap]
    refine List.filterMap_congr fun (e, place) inside ↦ ?_
    have unnamed : e.id = none := bare e (List.fst_mem_of_mem_zipIdx inside)
    cases has : e.content <;> simp [Entry.item?, has, unnamed, Entry.madeId]
  contents_eq := by
    rw [screen, places, List.map_filterMap, List.map_filterMap]
    refine List.filterMap_congr fun (e, place) inside ↦ ?_
    have stands : p.entries[place]? = some e := List.mk_mem_zipIdx_iff_getElem?.mp inside
    cases has : e.content <;> simp [Entry.item?, has, stands]

end Page

/-- No entry of a document gives an id. -/
def Manuscript.IsBare (m : Manuscript) : Prop := ∀ page ∈ m.pages, ∀ e ∈ page.entries, e.id = none

/-- The ids of all items of a document whose entries give none are different, and on each screen the
items are those of the entries with content, in order and numbered by the places of their entries.
-/
theorem Document.ids_of_isBare {text : String} {d : Document} (read : ofText text = .ok d)
    {m : Manuscript} (written : (Json.ofText? text >>= Manuscript.ofJson?) = some m)
    (bare : m.IsBare) :
    (d.items.map Item.id).Nodup ∧
      List.Forall₂ (fun page screen ↦
        screen.id = page.id ∧ ∃ places, page.Numbers screen.items places) m.pages d.screens := by
  have distinct := nodup_screens (isMade_of_ofText read)
  obtain ⟨other, same, made⟩ := exists_of_ofText read
  obtain rfl : m = other := Option.some.inj (written.symm.trans same)
  obtain ⟨screenTable, dialogTable, -, -, rfl⟩ := ofParts_eq_ok_iff.mp made
  have numbers : ∀ page ∈ m.pages, page.Numbers page.screen.items page.places :=
    fun page mem ↦ Page.numbers_places (bare page mem)
  constructor
  · have pages : m.pages.Pairwise fun page other ↦ page.id ≠ other.id := by
      rw [List.map_map] at distinct
      exact List.pairwise_map.mp distinct
    simp only [items, List.flatMap_map, List.map_flatMap, List.nodup_flatMap]
    constructor
    · intro page mem
      rw [(numbers page mem).ids_eq]
      exact (numbers page mem).ordered.nodup.map fun _ _ same ↦ (Entry.madeId_inj.mp same).2
    · refine pages.imp_of_mem fun {page other} mem mem' apart ↦ ?_
      change (page.screen.items.map Item.id).Disjoint (other.screen.items.map Item.id)
      rw [(numbers page mem).ids_eq, (numbers other mem').ids_eq]
      intro id here there
      obtain ⟨place, -, rfl⟩ := List.mem_map.mp here
      obtain ⟨spot, -, same⟩ := List.mem_map.mp there
      exact apart (Entry.madeId_inj.mp same).1.symm
  · refine List.forall₂_map_right_iff.mpr (List.forall₂_same.mpr fun page mem ↦ ?_)
    exact ⟨rfl, page.places, numbers page mem⟩

namespace Stairs

/-- The hall, with a gap between two texts. -/
def hallText : String :=
  "\x7b\"id\":\"hall\",\"content\":[\"up\",\x7b\"type\":\"void\"\x7d,\"down\"]\x7d"

/-- A second screen, whose id is that of the last text of the hall. -/
def landingText : String := "\x7b\"id\":\"hall-2\",\"content\":[\"rest\"]\x7d"

/-- A document of both screens. -/
def storyText : String := "\x7b\"screens\":[" ++ hallText ++ "," ++ landingText ++ "]\x7d"

/-- The document as it is written. -/
def storyJson : Json :=
  .object [("screens", .array [
    .object [("id", .string "hall"), ("content", .array
      [.string "up", .object [("type", .string "void")], .string "down"])],
    .object [("id", .string "hall-2"), ("content", .array [.string "rest"])]])]

/-- An entry that is a bare text. -/
def bareText (text : String) : Entry := { content := some (.text text {}) }

/-- The parts of the document. -/
def manuscript : Manuscript where
  metadata := {}
  config := {}
  pages := [⟨"hall", .screen, [bareText "up", { content := none }, bareText "down"]⟩,
    ⟨"hall-2", .screen, [bareText "rest"]⟩]
  dialogs := []
  declarations := []

/-- The document. -/
def document : Document where
  metadata := {}
  config := {}
  screens := manuscript.pages.map Page.screen
  dialogs := []
  declarations := []
  screenTable := ((∅ : IdTable).insert "hall" 0).insert "hall-2" 1
  dialogTable := ∅

set_option maxRecDepth 20000 in
/-- The parts are written by the text. -/
theorem manuscript_of_storyText :
    (Json.ofText? storyText >>= Manuscript.ofJson?) = some manuscript := by
  have json : Json.ofText? storyText = some storyJson := by
    simp only [Json.ofText?, storyText, String.toList_append]
    -- a literal gives its characters by rewriting, which is fast, and not by evaluation
    rw [hallText, landingText]
    repeat rw [String.toList_ofList]
    rfl
  rw [json]
  with_unfolding_all exact rfl

/-- The document is written by the text. -/
theorem ofText_storyText : Document.ofText storyText = .ok document := by
  rw [Document.ofText, manuscript_of_storyText]
  rfl

/-- An item of the hall and a screen have the same id, but no two items have. -/
theorem ids_of_document :
    document.items.map Item.id = ["hall-0", "hall-2", "hall-2-0"] ∧
      (document.items.map Item.id).Nodup := by
  have bare : manuscript.IsBare := by
    unfold Manuscript.IsBare
    decide
  exact ⟨by decide +kernel,
    (Document.ids_of_isBare ofText_storyText manuscript_of_storyText bare).1⟩

end Stairs

end Teletype
