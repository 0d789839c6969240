import Teletype.Document.Json
import Teletype.Proofs.Document.Tables
import Teletype.Proofs.Json.Reread
import Teletype.Session.Play
/-!
# The delays of a document

The delays between characters that a document states are numbers of 32 bits, and so are those of
its items, which take the delay of the document where they have none of their own.
-/

namespace Teletype

/-- The delays between the characters of a document fit into 32 bits. -/
def Document.HasWordDelays (d : Document) : Prop :=
  ∀ screen ∈ d.screens, ∀ e ∈ screen.revealEntries d.config.speed, e.speed.getD 0 < 2 ^ 32

/-- An optional number of 32 bits that has been read is one. -/
theorem Json.Record.lt_of_optional {r : Record} {name : String} {given : Option Nat}
    (read : r.optional name word32? = some given) : given.getD 0 < 2 ^ 32 := by
  cases given with
  | none => decide
  | some n =>
    obtain ⟨j, decoded⟩ := exists_decode_of_optional read
    unfold word32? natBelow? at decoded
    split at decoded
    · split at decoded
      · next below =>
        cases decoded
        exact below
      · cases decoded
    · cases decoded

/-- What holds of a default and of all that is decoded holds of a field that has been read. -/
theorem Json.Record.of_defaulted {α : Type} (p : α → Prop) {r : Record} {name : String}
    {fallback x : α} {decode : Json → Option α} (read : r.defaulted name fallback decode = some x)
    (own : p fallback) (each : ∀ j y, decode j = some y → p y) : p x := by
  unfold defaulted at read
  split at read
  · cases read
    exact own
  · exact each _ x read

/-- What holds of all items that a list is decoded to holds of the list. -/
theorem Json.forall_of_list? {α : Type} {p : α → Prop} {decode : Json → Option α}
    (each : ∀ j x, decode j = some x → p x) {j : Json} {xs : List α}
    (read : list? decode j = some xs) : ∀ x ∈ xs, p x := by
  unfold list? at read
  split at read
  · next items =>
    induction items generalizing xs with
    | nil =>
      cases read
      simp
    | cons item items ih =>
      simp only [List.mapM_cons, Option.bind_eq_bind, Option.bind_eq_some_iff,
        Option.pure_def, Option.some.injEq] at read
      obtain ⟨x, first, rest, later, rfl⟩ := read
      exact List.forall_mem_cons.mpr ⟨each item x first, ih later⟩
  · cases read

/-- The delay of text options that have been read fits into 32 bits. -/
theorem TextOptions.speed_lt_of_read? {align? : Json → Option Align} {j : Json} {o : TextOptions}
    (read : read? align? j = some o) : o.speed.getD 0 < 2 ^ 32 := by
  obtain ⟨r, -, read⟩ := Option.bind_eq_some_iff.mp read
  obtain ⟨speed, readSpeed, read⟩ := Option.bind_eq_some_iff.mp read
  have below := Json.Record.lt_of_optional readSpeed
  iterate 12 obtain ⟨_, -, read⟩ := Option.bind_eq_some_iff.mp read
  cases read
  exact below

/-- The delay of a document that has been read fits into 32 bits. -/
theorem DocumentConfig.speed_lt_of_ofJson? {j : Json} {c : DocumentConfig}
    (read : ofJson? j = some c) : c.speed.getD 0 < 2 ^ 32 := by
  obtain ⟨r, -, read⟩ := Option.bind_eq_some_iff.mp read
  obtain ⟨name, -, read⟩ := Option.bind_eq_some_iff.mp read
  obtain ⟨speed, readSpeed, read⟩ := Option.bind_eq_some_iff.mp read
  have below := Json.Record.lt_of_optional readSpeed
  iterate 6 obtain ⟨_, -, read⟩ := Option.bind_eq_some_iff.mp read
  cases read
  exact below

/-- The delay that an item has of its own, if any, fits into 32 bits. -/
def Content.HasWordDelay (c : Content) : Prop :=
  (c.options?.bind TextOptions.speed).getD 0 < 2 ^ 32

namespace Entry

private theorem speed_lt_of_options {r : Json.Record} {o : TextOptions}
    (read : r.defaulted "textOpts" {} TextOptions.ofEmbedded? = some o) :
    o.speed.getD 0 < 2 ^ 32 :=
  Json.Record.of_defaulted (fun o : TextOptions ↦ o.speed.getD 0 < 2 ^ 32) read (by decide)
    fun _ _ ↦ TextOptions.speed_lt_of_read?

private theorem content_of_finish (r : Json.Record) (styled : Bool) (content : Content) {e : Entry}
    (read : (do
      return {
        id := ← r.nullable "id" Json.string?
        className := ← if styled then r.nullable "className" Json.string? else some none
        onLoad := ← r.nullable "onLoad" Json.bool?
        content } : Option Entry) = some e) :
    e.content = some content := by
  obtain ⟨id, -, read⟩ := Option.bind_eq_some_iff.mp read
  cases styled with
  | true =>
    obtain ⟨className, -, read⟩ := Option.bind_eq_some_iff.mp read
    obtain ⟨onLoad, -, read⟩ := Option.bind_eq_some_iff.mp read
    cases read
    rfl
  | false =>
    obtain ⟨onLoad, -, read⟩ := Option.bind_eq_some_iff.mp read
    cases read
    rfl

/-- The content of an entry that has been read has a delay of 32 bits. -/
theorem hasWordDelay_of_ofBody? {tag : Json.Tag} {body : Json} {e : Entry}
    (read : ofBody? tag body = some e) : ∀ content ∈ e.content, content.HasWordDelay := by
  unfold ofBody? at read
  split at read
  case h_1 | h_2 =>
    obtain ⟨_, -, read⟩ := Option.bind_eq_some_iff.mp read
    cases read
    exact fun _ mem ↦ absurd mem (Option.not_mem_none _)
  case h_3 | h_4 =>
    obtain ⟨r, -, read⟩ := Option.bind_eq_some_iff.mp read
    obtain ⟨text, -, read⟩ := Option.bind_eq_some_iff.mp read
    obtain ⟨o, options, read⟩ := Option.bind_eq_some_iff.mp read
    rw [content_of_finish r true (.text text o) read]
    rintro _ ⟨⟩
    exact speed_lt_of_options options
  case h_5 | h_6 =>
    obtain ⟨r, -, read⟩ := Option.bind_eq_some_iff.mp read
    obtain ⟨src, -, read⟩ := Option.bind_eq_some_iff.mp read
    obtain ⟨alt, -, read⟩ := Option.bind_eq_some_iff.mp read
    rw [content_of_finish r true (.bitmap src alt) read]
    rintro _ ⟨⟩
    exact Nat.two_pow_pos 32
  case h_7 | h_8 =>
    obtain ⟨r, -, read⟩ := Option.bind_eq_some_iff.mp read
    obtain ⟨text, -, read⟩ := Option.bind_eq_some_iff.mp read
    obtain ⟨target, -, read⟩ := Option.bind_eq_some_iff.mp read
    obtain ⟨actions, -, read⟩ := Option.bind_eq_some_iff.mp read
    obtain ⟨o, options, read⟩ := Option.bind_eq_some_iff.mp read
    rw [content_of_finish r true (.link _ _ o) read]
    rintro _ ⟨⟩
    exact speed_lt_of_options options
  case h_9 | h_10 =>
    obtain ⟨r, -, read⟩ := Option.bind_eq_some_iff.mp read
    obtain ⟨states, -, read⟩ := Option.bind_eq_some_iff.mp read
    obtain ⟨o, options, read⟩ := Option.bind_eq_some_iff.mp read
    rw [content_of_finish r true (.toggle states o) read]
    rintro _ ⟨⟩
    exact speed_lt_of_options options
  case h_11 | h_12 =>
    obtain ⟨r, -, read⟩ := Option.bind_eq_some_iff.mp read
    obtain ⟨prompt, -, read⟩ := Option.bind_eq_some_iff.mp read
    obtain ⟨commands, -, read⟩ := Option.bind_eq_some_iff.mp read
    obtain ⟨allowed, -, read⟩ := Option.bind_eq_some_iff.mp read
    obtain ⟨o, options, read⟩ := Option.bind_eq_some_iff.mp read
    rw [content_of_finish r true (.prompt ⟨_, commands, allowed, o⟩) read]
    rintro _ ⟨⟩
    exact speed_lt_of_options options
  case h_13 | h_14 =>
    obtain ⟨r, -, read⟩ := Option.bind_eq_some_iff.mp read
    obtain ⟨prompt, -, read⟩ := Option.bind_eq_some_iff.mp read
    obtain ⟨duration, -, read⟩ := Option.bind_eq_some_iff.mp read
    obtain ⟨o, options, read⟩ := Option.bind_eq_some_iff.mp read
    rw [content_of_finish r true (.countdown ⟨prompt, duration, o⟩) read]
    rintro _ ⟨⟩
    exact speed_lt_of_options options
  case h_15 | h_16 =>
    obtain ⟨r, -, read⟩ := Option.bind_eq_some_iff.mp read
    obtain ⟨target, -, read⟩ := Option.bind_eq_some_iff.mp read
    obtain ⟨mutation, -, read⟩ := Option.bind_eq_some_iff.mp read
    rw [content_of_finish r false (.mutate target mutation) read]
    rintro _ ⟨⟩
    exact Nat.two_pow_pos 32
  case h_17 => cases read

/-- An entry that has been read has a delay of 32 bits. -/
theorem hasWordDelay_of_ofJson? {j : Json} {e : Entry} (read : ofJson? j = some e) :
    ∀ content ∈ e.content, content.HasWordDelay := by
  unfold ofJson? at read
  split at read
  · cases read
    rintro _ ⟨⟩
    exact Nat.two_pow_pos 32
  · obtain ⟨_, -, read⟩ := Option.bind_eq_some_iff.mp read
    obtain ⟨⟨tag, body⟩, -, read⟩ := Option.bind_eq_some_iff.mp read
    exact hasWordDelay_of_ofBody? read

end Entry

/-- The items of a page that has been read have delays of 32 bits. -/
theorem Page.hasWordDelay_of_ofJson? {j : Json} {p : Page} (read : ofJson? j = some p) :
    ∀ item ∈ p.screen.items, item.content.HasWordDelay := by
  obtain ⟨r, -, read⟩ := Option.bind_eq_some_iff.mp read
  obtain ⟨id, -, read⟩ := Option.bind_eq_some_iff.mp read
  obtain ⟨kind, -, read⟩ := Option.bind_eq_some_iff.mp read
  obtain ⟨entries, readEntries, read⟩ := Option.bind_eq_some_iff.mp read
  cases read
  have each : ∀ e ∈ entries, ∀ content ∈ e.content, content.HasWordDelay :=
    Json.Record.of_defaulted _ readEntries (by simp) fun _ _ ↦
      Json.forall_of_list? fun _ _ ↦ Entry.hasWordDelay_of_ofJson?
  intro item hm
  obtain ⟨⟨e, place⟩, mem, made⟩ := List.mem_filterMap.mp hm
  obtain ⟨content, hc, rfl⟩ := Option.map_eq_some_iff.mp made
  exact each e (List.fst_mem_of_mem_zipIdx mem) content hc

/-- The parts of a document that have been read state delays of 32 bits. -/
theorem Manuscript.hasWordDelays_of_ofJson? {j : Json} {m : Manuscript}
    (read : ofJson? j = some m) :
    m.config.speed.getD 0 < 2 ^ 32 ∧
      ∀ page ∈ m.pages, ∀ item ∈ page.screen.items, item.content.HasWordDelay := by
  obtain ⟨r, -, read⟩ := Option.bind_eq_some_iff.mp read
  obtain ⟨metadata, -, read⟩ := Option.bind_eq_some_iff.mp read
  obtain ⟨config, readConfig, read⟩ := Option.bind_eq_some_iff.mp read
  obtain ⟨pages, readPages, read⟩ := Option.bind_eq_some_iff.mp read
  obtain ⟨dialogs, -, read⟩ := Option.bind_eq_some_iff.mp read
  obtain ⟨declarations, -, read⟩ := Option.bind_eq_some_iff.mp read
  cases read
  constructor
  · exact Json.Record.of_defaulted (fun c : DocumentConfig ↦ c.speed.getD 0 < 2 ^ 32) readConfig
      (by decide) fun _ _ ↦ DocumentConfig.speed_lt_of_ofJson?
  · exact Json.Record.of_defaulted _ readPages (by simp) fun _ _ ↦
      Json.forall_of_list? fun _ _ ↦ Page.hasWordDelay_of_ofJson?

/-- A document that has been read states delays of 32 bits. -/
theorem Document.hasWordDelays_of_ofText {s : String} {d : Document} (read : ofText s = .ok d) :
    d.HasWordDelays := by
  obtain ⟨m, written, made⟩ := exists_of_ofText read
  obtain ⟨j, -, parts⟩ := Option.bind_eq_some_iff.mp written
  obtain ⟨shared, own⟩ := Manuscript.hasWordDelays_of_ofJson? parts
  obtain ⟨screenTable, dialogTable, -, -, rfl⟩ := ofParts_eq_ok_iff.mp made
  intro screen hs e he
  obtain ⟨page, hp, rfl⟩ := List.mem_map.mp hs
  obtain ⟨item, hi, rfl⟩ := List.mem_map.mp he
  have mine : (item.content.options?.bind TextOptions.speed).getD 0 < 2 ^ 32 :=
    own page hp item hi
  cases hd : item.content.options?.bind TextOptions.speed with
  | none => simpa [hd] using shared
  | some delay => simpa [hd] using mine

end Teletype
