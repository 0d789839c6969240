import Teletype.Document.Json
/-!
# The tables of a document

A document is made of parts whose ids are all different, and of no others: where ids repeat, the
first one that does is reported, that of a screen before that of a dialog. The tables of a document
that is made find an element exactly where searching the list from the front would find it.
-/

namespace Teletype

/-- The first id of a list that occurs again: those before it are all different, and it is one of
them. -/
def IsFirstRepeat (ids : List String) (id : String) : Prop :=
  ∃ before after, ids = before ++ id :: after ∧ before.Nodup ∧ id ∈ before

/-- Where an id repeats, the ids are not all different. -/
theorem IsFirstRepeat.not_nodup {ids : List String} {id : String} (h : IsFirstRepeat ids id) :
    ¬ ids.Nodup := by
  obtain ⟨before, after, rfl, -, again⟩ := h
  intro nodup
  have apart := (List.nodup_append.mp nodup).2.2
  exact apart id again id List.mem_cons_self rfl

private theorem eq_of_append_eq_append {before after other more : List String} {id again : String}
    (same : before ++ id :: after = other ++ again :: more) (nodup : other.Nodup)
    (repeats : id ∈ before) (short : before.length ≤ other.length) : id = again := by
  obtain ⟨between, rfl, rest⟩ | ⟨between, rfl, rest⟩ := List.append_eq_append_iff.mp same
  · cases between with
    | nil => exact (List.cons.inj rest).1
    | cons first between =>
      obtain ⟨rfl, -⟩ := List.cons.inj rest
      exact absurd rfl ((List.nodup_append.mp nodup).2.2 id repeats id List.mem_cons_self)
  · have : between = [] := by
      rw [List.length_append] at short
      exact List.length_eq_zero_iff.mp (by omega)
    subst this
    exact (List.cons.inj rest).1.symm

/-- There is only one first repeat. -/
theorem IsFirstRepeat.unique {ids : List String} {id again : String} (h : IsFirstRepeat ids id)
    (h' : IsFirstRepeat ids again) : id = again := by
  obtain ⟨before, after, rfl, nodup, repeats⟩ := h
  obtain ⟨other, more, same, nodup', repeats'⟩ := h'
  rcases Nat.le_total before.length other.length with short | short
  · exact eq_of_append_eq_append same nodup' repeats short
  · exact (eq_of_append_eq_append same.symm nodup repeats' short).symm

/-- A table of ids fails for one that it already has or that repeats one of those before, all of
which are new and different. -/
private theorem exists_of_tabulate_eq_error {table : IdTable} {position : Nat} {ids : List String}
    {id : String} (h : tabulate table position ids = .error id) :
    ∃ before after, ids = before ++ id :: after ∧ before.Nodup ∧
      (∀ other ∈ before, table.contains other = false) ∧
      (table.contains id = true ∨ id ∈ before) := by
  induction ids generalizing table position with
  | nil => cases h
  | cons first ids ih =>
    rw [tabulate] at h
    split at h
    · next known =>
      cases h
      exact ⟨[], ids, rfl, List.nodup_nil, List.forall_mem_nil _, .inl known⟩
    · next new =>
      -- the table behind the first id has that id and what it had before
      have holds (other : String) : (table.insert first position).contains other = true ↔
          first = other ∨ table.contains other = true := by
        simp [Std.ExtTreeMap.contains_insert]
      obtain ⟨before, after, rfl, nodup, fresh, again⟩ := ih h
      have apart : ∀ other ∈ before, first ≠ other ∧ table.contains other = false := by
        intro other mem
        have absent := Bool.eq_false_iff.mp (fresh other mem)
        rw [Ne, holds, not_or, Bool.not_eq_true] at absent
        exact absent
      refine ⟨first :: before, after, rfl, ?_, ?_, ?_⟩
      · exact List.nodup_cons.mpr ⟨fun mem ↦ (apart first mem).1 rfl, nodup⟩
      · exact List.forall_mem_cons.mpr
          ⟨Bool.eq_false_iff.mpr new, fun other mem ↦ (apart other mem).2⟩
      · rw [holds] at again
        rcases again with (rfl | known) | mem
        · exact .inr List.mem_cons_self
        · exact .inl known
        · exact .inr (List.mem_cons_of_mem first mem)

private theorem getElem?_of_tabulate {table result : IdTable} {position : Nat} {ids : List String}
    (h : tabulate table position ids = .ok result) (id : String) :
    result[id]? = (table[id]?).or ((ids.idxOf? id).map (· + position)) := by
  induction ids generalizing table position with
  | nil =>
    cases h
    simp
  | cons first ids ih =>
    simp only [tabulate] at h
    split at h
    · cases h
    · next hnew =>
      have hnone : table[first]? = none :=
        Std.ExtTreeMap.getElem?_eq_none fun hm ↦
          hnew (Std.ExtTreeMap.contains_iff_mem.mpr hm)
      rw [ih h, Std.ExtTreeMap.getElem?_insert, List.idxOf?_cons]
      by_cases hf : first = id
      · subst hf
        simp [hnone]
      · have hadd : (fun i ↦ i + (position + 1)) = (fun i ↦ i + position) ∘ (fun i ↦ i + 1) := by
          funext i
          simp only [Function.comp]
          omega
        simp [hf, Option.map_map, hadd]

private theorem nodup_of_tabulate {table result : IdTable} {position : Nat} {ids : List String}
    (h : tabulate table position ids = .ok result) :
    ids.Nodup ∧ ∀ id ∈ ids, table.contains id = false := by
  induction ids generalizing table position with
  | nil => simp
  | cons first ids ih =>
    simp only [tabulate] at h
    split at h
    · cases h
    · next hnew =>
      obtain ⟨nodup, absent⟩ := ih h
      have apart : ∀ id ∈ ids, first ≠ id ∧ table.contains id = false := by
        intro id hm
        have := absent id hm
        rw [Std.ExtTreeMap.contains_insert, Bool.or_eq_false_iff] at this
        exact ⟨fun same ↦ by simp [same] at this, this.2⟩
      constructor
      · exact List.nodup_cons.mpr ⟨fun hm ↦ (apart first hm).1 rfl, nodup⟩
      · intro id hm
        rcases List.mem_cons.mp hm with rfl | hm
        · exact Bool.eq_false_iff.mpr hnew
        · exact (apart id hm).2

/-- A table of ids fails for the first one that repeats. -/
theorem tabulate_eq_error_iff {ids : List String} {id : String} :
    tabulate ∅ 0 ids = .error id ↔ IsFirstRepeat ids id := by
  have repeats {id : String} (failed : tabulate ∅ 0 ids = .error id) : IsFirstRepeat ids id := by
    simpa [IsFirstRepeat] using exists_of_tabulate_eq_error failed
  refine ⟨repeats, fun first ↦ ?_⟩
  cases made : tabulate ∅ 0 ids with
  | ok table => exact absurd (nodup_of_tabulate made).1 first.not_nodup
  | error other => rw [(repeats made).unique first]

/-- A table of ids is made exactly when they are all different. -/
private theorem exists_tabulate_iff {ids : List String} :
    (∃ table, tabulate ∅ 0 ids = .ok table) ↔ ids.Nodup := by
  constructor
  · rintro ⟨table, made⟩
    exact (nodup_of_tabulate made).1
  · intro nodup
    cases made : tabulate ∅ 0 ids with
    | ok table => exact ⟨table, rfl⟩
    | error id => exact absurd nodup (tabulate_eq_error_iff.mp made).not_nodup

/-- Where all keys are different, a search by a key finds the element that has it. -/
theorem find?_eq_some_iff_of_nodup {α : Type} {key : α → String} {elements : List α}
    (nodup : (elements.map key).Nodup) {id : String} {element : α} :
    (elements.find? fun other ↦ key other == id) = some element ↔
      element ∈ elements ∧ key element = id := by
  constructor
  · intro found
    exact ⟨List.mem_of_find?_eq_some found, by simpa using List.find?_some found⟩
  · rintro ⟨member, rfl⟩
    induction elements with
    | nil => cases member
    | cons first elements ih =>
      obtain ⟨fresh, nodup⟩ := List.nodup_cons.mp nodup
      rcases List.mem_cons.mp member with rfl | member
      · simp
      · have apart : ¬ key first = key element := by
          intro same
          exact fresh (same ▸ List.mem_map_of_mem member)
        rw [List.find?_cons_of_neg (by simpa using apart)]
        exact ih nodup member

private theorem exists_getElem?_of_tabulate {α : Type} {key : α → String} {elements : List α}
    {table : IdTable} (h : tabulate ∅ 0 (elements.map key) = .ok table) {id : String}
    {position : Nat} (entry : table[id]? = some position) :
    ∃ element, elements[position]? = some element ∧ key element = id := by
  have place : (elements.map key).idxOf? id = some position := by
    rw [← entry, getElem?_of_tabulate h id]
    simp
  obtain ⟨inside, same, -⟩ := List.idxOf?_eq_some_iff.mp place
  rw [List.length_map] at inside
  rw [List.getElem_map] at same
  exact ⟨elements[position], List.getElem?_eq_getElem inside, same⟩

private theorem bind_getElem?_of_tabulate {α : Type} (key : α → String) (elements : List α)
    {table : IdTable} (h : tabulate ∅ 0 (elements.map key) = .ok table) (id : String) :
    (table[id]?.bind fun position ↦ elements[position]?) =
      elements.find? fun element ↦ key element == id := by
  have hplace : table[id]? = (elements.map key).idxOf? id := by
    simpa using getElem?_of_tabulate h id
  rw [hplace]
  clear h hplace
  induction elements with
  | nil => simp
  | cons first elements ih =>
    rw [List.map_cons, List.idxOf?_cons, List.find?_cons]
    cases hk : key first == id with
    | true => simp
    | false =>
      rw [← ih]
      simp only [Bool.false_eq_true, ↓reduceIte, Option.bind_map]
      rfl

namespace Document

/-- A document that its parts make. -/
def IsMade (d : Document) : Prop :=
  ∃ metadata config screens dialogs declarations,
    ofParts metadata config screens dialogs declarations = .ok d

/-- A text writes the document of its parts. -/
theorem exists_of_ofText {s : String} {d : Document} (h : ofText s = .ok d) :
    ∃ m, (Json.ofText? s >>= Manuscript.ofJson?) = some m ∧ m.document = .ok d := by
  unfold ofText at h
  split at h
  · cases h
  · next m written =>
    cases hm : m.document with
    | error e =>
      rw [hm] at h
      cases h
    | ok made =>
      rw [hm] at h
      cases h
      exact ⟨m, written, hm⟩

/-- The document that a text writes is made of parts. -/
theorem isMade_of_ofText {s : String} {d : Document} (h : ofText s = .ok d) : d.IsMade := by
  obtain ⟨m, -, made⟩ := exists_of_ofText h
  exact ⟨_, _, _, _, _, made⟩

section Parts

variable {metadata : Metadata} {config : DocumentConfig} {screens : List Screen}
  {dialogs : List Dialog} {declarations : List Declaration} {d : Document}

/-- The tables of a document are made one after the other, that of the screens first. -/
theorem ofParts_eq :
    ofParts metadata config screens dialogs declarations =
      match tabulate ∅ 0 (screens.map Screen.id) with
      | .error id => .error (.duplicateId .screen id)
      | .ok screenTable =>
        match tabulate ∅ 0 (dialogs.map Dialog.id) with
        | .error id => .error (.duplicateId .dialog id)
        | .ok dialogTable =>
          .ok { metadata, config, screens, dialogs, declarations, screenTable, dialogTable } := by
  unfold ofParts
  cases tabulate ∅ 0 (screens.map Screen.id) with
  | error id => rfl
  | ok screenTable => cases tabulate ∅ 0 (dialogs.map Dialog.id) <;> rfl

/-- A document is made of parts with a table of the screens and one of the dialogs. -/
theorem ofParts_eq_ok_iff :
    ofParts metadata config screens dialogs declarations = .ok d ↔
      ∃ screenTable dialogTable, tabulate ∅ 0 (screens.map Screen.id) = .ok screenTable ∧
        tabulate ∅ 0 (dialogs.map Dialog.id) = .ok dialogTable ∧
        d = { metadata, config, screens, dialogs, declarations, screenTable, dialogTable } := by
  rw [ofParts_eq]
  cases tabulate ∅ 0 (screens.map Screen.id) with
  | error id => simp
  | ok screenTable => cases tabulate ∅ 0 (dialogs.map Dialog.id) <;> simp [eq_comm]

/-- No document is made of parts exactly for a screen that has no place in a table, or else for such
a dialog. -/
theorem ofParts_eq_error_iff {e : DocumentError} :
    ofParts metadata config screens dialogs declarations = .error e ↔
      (∃ id, tabulate ∅ 0 (screens.map Screen.id) = .error id ∧ e = .duplicateId .screen id) ∨
      (∃ table, tabulate ∅ 0 (screens.map Screen.id) = .ok table) ∧
        ∃ id, tabulate ∅ 0 (dialogs.map Dialog.id) = .error id ∧ e = .duplicateId .dialog id := by
  rw [ofParts_eq]
  cases tabulate ∅ 0 (screens.map Screen.id) with
  | error id => simp [eq_comm]
  | ok screenTable => cases tabulate ∅ 0 (dialogs.map Dialog.id) <;> simp [eq_comm]

end Parts

/-- The tables of a document that is made list its screens and dialogs. -/
theorem tabulate_of_isMade {d : Document} (h : d.IsMade) :
    tabulate ∅ 0 (d.screens.map Screen.id) = .ok d.screenTable ∧
      tabulate ∅ 0 (d.dialogs.map Dialog.id) = .ok d.dialogTable := by
  obtain ⟨metadata, config, screens, dialogs, declarations, h⟩ := h
  obtain ⟨screenTable, dialogTable, hs, hd, rfl⟩ := ofParts_eq_ok_iff.mp h
  exact ⟨hs, hd⟩

/-- A screen that is found belongs to the document. -/
theorem mem_of_screen? {d : Document} {id : String} {screen : Screen}
    (h : d.screen? id = some screen) : screen ∈ d.screens := by
  obtain ⟨position, -, hp⟩ := Option.bind_eq_some_iff.mp h
  exact List.mem_of_getElem? hp

/-- The items of a screen that is found belong to the document. -/
theorem mem_items_of_screen? {d : Document} {id : String} {screen : Screen}
    (h : d.screen? id = some screen) {item : Item} (member : item ∈ screen.items) :
    item ∈ d.items :=
  List.mem_flatMap.mpr ⟨screen, mem_of_screen? h, member⟩

variable {d : Document} (made : d.IsMade)

include made

/-- The screen with an id is the first one that a search for the id finds. -/
theorem screen?_eq_find? (id : String) : d.screen? id = d.screens.find? fun s ↦ s.id == id :=
  bind_getElem?_of_tabulate Screen.id d.screens (tabulate_of_isMade made).1 id

/-- The dialog with an id is the first one that a search for the id finds. -/
theorem dialog?_eq_find? (id : String) : d.dialog? id = d.dialogs.find? fun s ↦ s.id == id :=
  bind_getElem?_of_tabulate Dialog.id d.dialogs (tabulate_of_isMade made).2 id

/-- The ids of the screens of a document are all different. -/
theorem nodup_screens : (d.screens.map Screen.id).Nodup :=
  (nodup_of_tabulate (tabulate_of_isMade made).1).1

/-- A screen is found by an id exactly if it is one of the document and has that id. -/
theorem screen?_eq_some_iff {id : String} {screen : Screen} :
    d.screen? id = some screen ↔ screen ∈ d.screens ∧ screen.id = id := by
  rw [screen?_eq_find? made]
  exact find?_eq_some_iff_of_nodup (nodup_screens made)

/-- Two screens of the document with the same id are the same. -/
theorem eq_of_id_eq {screen other : Screen} (h : screen ∈ d.screens) (ho : other ∈ d.screens)
    (same : screen.id = other.id) : screen = other := by
  have found := (screen?_eq_some_iff made).mpr ⟨h, same⟩
  rw [(screen?_eq_some_iff made).mpr ⟨ho, rfl⟩] at found
  exact (Option.some.inj found).symm

/-- A dialog is found by an id exactly if it is one of the document and has that id. -/
theorem dialog?_eq_some_iff {id : String} {dialog : Dialog} :
    d.dialog? id = some dialog ↔ dialog ∈ d.dialogs ∧ dialog.id = id := by
  rw [dialog?_eq_find? made]
  exact find?_eq_some_iff_of_nodup (nodup_of_tabulate (tabulate_of_isMade made).2).1

/-- An entry of the table of screens is the place of a screen with that id. -/
theorem exists_of_screenTable {id : String} {position : Nat}
    (entry : d.screenTable[id]? = some position) :
    ∃ screen, d.screens[position]? = some screen ∧ screen.id = id :=
  exists_getElem?_of_tabulate (tabulate_of_isMade made).1 entry

/-- An entry of the table of dialogs is the place of a dialog with that id. -/
theorem exists_of_dialogTable {id : String} {position : Nat}
    (entry : d.dialogTable[id]? = some position) :
    ∃ dialog, d.dialogs[position]? = some dialog ∧ dialog.id = id :=
  exists_getElem?_of_tabulate (tabulate_of_isMade made).2 entry

/-- The id of a screen of the document is found. -/
theorem isSome_screen?_of_mem {screen : Screen} (h : screen ∈ d.screens) :
    (d.screen? screen.id).isSome = true := by
  rw [screen?_eq_find? made, List.find?_isSome]
  exact ⟨screen, h, by simp⟩

end Document

/-- A document is made of parts exactly when the ids of its screens and those of its dialogs are all
different. If they are not, the first screen whose id stands before it is reported, or else the
first such dialog. The document has just these screens and dialogs, its tables lead to no place
beyond them, and it finds the screen or the dialog that a search through the list finds. -/
theorem Document.ofParts_agrees (metadata : Metadata) (config : DocumentConfig)
    (screens : List Screen) (dialogs : List Dialog) (declarations : List Declaration) :
    ((∃ d, ofParts metadata config screens dialogs declarations = .ok d) ↔
        (screens.map Screen.id).Nodup ∧ (dialogs.map Dialog.id).Nodup) ∧
      (∀ e, ofParts metadata config screens dialogs declarations = .error e ↔
        (∃ id, IsFirstRepeat (screens.map Screen.id) id ∧ e = .duplicateId .screen id) ∨
        (screens.map Screen.id).Nodup ∧
          ∃ id, IsFirstRepeat (dialogs.map Dialog.id) id ∧ e = .duplicateId .dialog id) ∧
      ∀ d, ofParts metadata config screens dialogs declarations = .ok d →
        (d.screens = screens ∧ d.dialogs = dialogs) ∧
        (∀ (id : String) position, d.screenTable[id]? = some position → position < screens.length) ∧
        (∀ (id : String) position, d.dialogTable[id]? = some position → position < dialogs.length) ∧
        ∀ id, (d.screen? id = screens.find? fun screen ↦ screen.id == id) ∧
          d.dialog? id = dialogs.find? fun dialog ↦ dialog.id == id := by
  refine ⟨?_, fun e ↦ ?_, fun d made ↦ ?_⟩
  · rw [← exists_tabulate_iff, ← exists_tabulate_iff]
    constructor
    · rintro ⟨d, made⟩
      obtain ⟨screenTable, dialogTable, hs, hd, -⟩ := ofParts_eq_ok_iff.mp made
      exact ⟨⟨screenTable, hs⟩, ⟨dialogTable, hd⟩⟩
    · rintro ⟨⟨screenTable, hs⟩, ⟨dialogTable, hd⟩⟩
      exact ⟨_, ofParts_eq_ok_iff.mpr ⟨screenTable, dialogTable, hs, hd, rfl⟩⟩
  · rw [ofParts_eq_error_iff, exists_tabulate_iff]
    simp only [tabulate_eq_error_iff]
  · have isMade : d.IsMade := ⟨_, _, _, _, _, made⟩
    obtain ⟨screenTable, dialogTable, -, -, parts⟩ := ofParts_eq_ok_iff.mp made
    have same : d.screens = screens ∧ d.dialogs = dialogs := by rw [parts]; exact ⟨rfl, rfl⟩
    obtain ⟨rfl, rfl⟩ := same
    refine ⟨⟨rfl, rfl⟩, fun id position entry ↦ ?_, fun id position entry ↦ ?_, fun id ↦
      ⟨screen?_eq_find? isMade id, dialog?_eq_find? isMade id⟩⟩
    · obtain ⟨screen, inside, -⟩ := exists_of_screenTable isMade entry
      exact (List.getElem?_eq_some_iff.mp inside).1
    · obtain ⟨dialog, inside, -⟩ := exists_of_dialogTable isMade entry
      exact (List.getElem?_eq_some_iff.mp inside).1

end Teletype
