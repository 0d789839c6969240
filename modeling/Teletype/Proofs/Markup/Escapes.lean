import Teletype.Markup.Escape
import Teletype.Markup.Plain
/-!
# Reading escapes back

A table of escapes is read back by replacing the word of one row after another. This undoes the
escaping of any text when no word can be taken for part of another one and the ampersand, with
which every word begins, comes last: what a row uncovers is then never read a second time. The
escapes of markup are such a table.
-/

namespace Teletype.Markup

/-! ## Replacing a word -/

section Replace

variable {word replacement : List Char}

/-- Where the word does not stand the first character is kept. -/
theorem replace_cons_of_not_prefix {c : Char} {cs : List Char} (h : ¬ word <+: c :: cs) :
    replace word replacement (c :: cs) = c :: replace word replacement cs := by
  have absent : word.isPrefixOf (c :: cs) = false := by
    rw [Bool.eq_false_iff, ne_eq, List.isPrefixOf_iff_prefix]
    exact h
  simp only [replace, replaceFrom, absent, Bool.false_eq_true, ↓reduceIte]

private theorem replaceFrom_length (skipped cs : List Char) :
    replaceFrom word replacement skipped.length (skipped ++ cs) = replace word replacement cs := by
  induction skipped with
  | nil => rfl
  | cons c skipped ih => exact ih

/-- Where the word stands its replacement takes its place. -/
theorem replace_word_append (c : Char) (name cs : List Char) :
    replace (c :: name) replacement (c :: name ++ cs) =
      replacement ++ replace (c :: name) replacement cs := by
  have present : (c :: name).isPrefixOf (c :: (name ++ cs)) = true :=
    List.isPrefixOf_iff_prefix.mpr (List.prefix_append (c :: name) cs)
  rw [← replaceFrom_length name cs, List.cons_append, replace, replaceFrom, if_pos present]
  rfl

/-- Text without the first character of the word is kept. -/
theorem replace_append_of_not_mem {c : Char} {name kept : List Char} (h : c ∉ kept)
    (cs : List Char) :
    replace (c :: name) replacement (kept ++ cs) =
      kept ++ replace (c :: name) replacement cs := by
  induction kept with
  | nil => rfl
  | cons d kept ih =>
    rw [List.mem_cons, not_or] at h
    have absent : ¬ c :: name <+: d :: (kept ++ cs) :=
      fun hp ↦ h.1 (List.cons_prefix_cons.mp hp).1
    rw [List.cons_append, replace_cons_of_not_prefix absent, ih h.2, List.cons_append]

/-- A word that is replaced in the code of every character is replaced in coded text. -/
theorem replace_flatMap {f g : Char → List Char}
    (h : ∀ c cs, replace word replacement (f c ++ cs) = g c ++ replace word replacement cs)
    (cs : List Char) : replace word replacement (cs.flatMap f) = cs.flatMap g := by
  induction cs with
  | nil => rfl
  | cons c cs ih => rw [List.flatMap_cons, h, ih, List.flatMap_cons]

end Replace

/-! ## Tables of escapes -/

variable {row : List Char × List Char} {table rows : List (List Char × List Char)} {c : Char}

/-- A character as a table of escapes writes it. One that no row is for stands for itself. -/
def escapeBy (table : List (List Char × List Char)) (c : Char) : List Char :=
  ((table.find? fun row ↦ row.2 == [c]).map Prod.fst).getD [c]

/-- Text with the words of a table replaced, one row after another. -/
def readBack (table : List (List Char × List Char)) (cs : List Char) : List Char :=
  table.foldl (fun cs row ↦ replace row.1 row.2 cs) cs

/-- A character that no row is for is written as it is. -/
theorem escapeBy_of_forall (h : ∀ row ∈ table, row.2 ≠ [c]) : escapeBy table c = [c] := by
  have absent : (table.find? fun row ↦ row.2 == [c]) = none :=
    List.find?_eq_none.mpr fun row hm ho ↦ h row hm (eq_of_beq ho)
  rw [escapeBy, absent]
  rfl

/-- A character is written by the row for it, if there is one, or else as it is. -/
theorem escapeBy_cases (table : List (List Char × List Char)) (c : Char) :
    (∃ row ∈ table, row.2 = [c] ∧ escapeBy table c = row.1) ∨
      (∀ row ∈ table, row.2 ≠ [c]) ∧ escapeBy table c = [c] := by
  cases hf : table.find? fun row ↦ row.2 == [c] with
  | none =>
    have absent : ∀ row ∈ table, row.2 ≠ [c] :=
      fun row hm ho ↦ List.find?_eq_none.mp hf row hm (beq_iff_eq.mpr ho)
    exact .inr ⟨absent, escapeBy_of_forall absent⟩
  | some row =>
    refine .inl ⟨row, List.mem_of_find?_eq_some hf, ?_, by rw [escapeBy, hf]; rfl⟩
    simpa using List.find?_some hf

/-- A table of escapes that can be read back one row after another. -/
structure Legible (table : List (List Char × List Char)) : Prop where
  /-- A word is an ampersand and a name without one. -/
  words : ∀ row ∈ table, row.1.head? = some '&' ∧ '&' ∉ row.1.tail
  /-- No two rows are for the same character, and no word begins with that of another row. -/
  apart : table.Pairwise fun row other ↦
    row.2 ≠ other.2 ∧ ¬ row.1 <+: other.1 ∧ ¬ other.1 <+: row.1
  /-- The row for the ampersand is the last one. -/
  last : ∀ row ∈ table.getLast?, row.2 = ['&']

/-- The escapes of markup can be read back one after another. -/
theorem legible_entities : Legible entities := ⟨by decide, by decide, by decide⟩

namespace Legible

/-- A word of a table begins with an ampersand, and no other one follows. -/
theorem exists_name (h : Legible table) (hm : row ∈ table) :
    ∃ name, row.1 = '&' :: name ∧ '&' ∉ name := by
  obtain ⟨head, tail⟩ := h.words row hm
  obtain ⟨name, hname⟩ := List.head?_eq_some_iff.mp head
  exact ⟨name, hname, by simpa [hname] using tail⟩

/-- Behind its first row a table can be read back as well. -/
theorem tail (h : Legible (row :: rows)) : Legible rows where
  words other hm := h.words other (List.mem_cons_of_mem row hm)
  apart := h.apart.of_cons
  last other hm := h.last other (by
    rw [List.getLast?_cons, Option.mem_def.mp hm]
    rfl)

private theorem exists_ampersand (h : Legible (row :: rows)) (hr : row.2 ≠ ['&']) :
    ∃ other ∈ rows, other.2 = ['&'] := by
  cases hl : rows.getLast? with
  | none => exact absurd (h.last row (by rw [List.getLast?_cons, hl]; rfl)) hr
  | some other =>
    exact ⟨other, List.mem_of_getLast? hl, h.last other (by rw [List.getLast?_cons, hl]; rfl)⟩

/-- Reading the first row back keeps what the other rows write. -/
theorem replace_escapeBy_tail (h : Legible (row :: rows)) (hc : row.2 = ['&'] → c ≠ '&')
    (cs : List Char) :
    replace row.1 row.2 (escapeBy rows c ++ cs) = escapeBy rows c ++ replace row.1 row.2 cs := by
  obtain ⟨name, hname, -⟩ := h.exists_name List.mem_cons_self
  rcases escapeBy_cases rows c with ⟨other, hm, -, written⟩ | ⟨absent, written⟩
  · -- two different words differ before either of them ends
    obtain ⟨word, hword, outside⟩ := h.exists_name (List.mem_cons_of_mem row hm)
    obtain ⟨-, shorter, longer⟩ := List.rel_of_pairwise_cons h.apart hm
    have elsewhere : ¬ row.1 <+: other.1 ++ cs := fun hp ↦
      (List.prefix_or_prefix_of_prefix hp (List.prefix_append other.1 cs)).elim shorter longer
    rw [hword, List.cons_append] at elsewhere
    have behind : replace row.1 row.2 (word ++ cs) = word ++ replace row.1 row.2 cs :=
      hname ▸ replace_append_of_not_mem outside cs
    rw [written, hword, List.cons_append, replace_cons_of_not_prefix elsewhere, behind,
      List.cons_append]
  · -- an ampersand is always escaped, as its row is the last one
    have plain : c ≠ '&' := by
      rintro rfl
      by_cases hr : row.2 = ['&']
      · exact hc hr rfl
      · obtain ⟨other, hm, ho⟩ := h.exists_ampersand hr
        exact absent other hm ho
    have outside : '&' ∉ [c] := by simpa using plain.symm
    rw [written, hname]
    exact replace_append_of_not_mem outside cs

/-- Reading the first row back leaves what the other rows write. -/
theorem replace_escapeBy (h : Legible (row :: rows)) (c : Char) (cs : List Char) :
    replace row.1 row.2 (escapeBy (row :: rows) c ++ cs) =
      escapeBy rows c ++ replace row.1 row.2 cs := by
  by_cases hc : row.2 = [c]
  · obtain ⟨name, hname, -⟩ := h.exists_name List.mem_cons_self
    have alone : escapeBy rows c = [c] := escapeBy_of_forall fun other hm ho ↦
      (List.rel_of_pairwise_cons h.apart hm).1 (hc.trans ho.symm)
    have written : escapeBy (row :: rows) c = row.1 := by simp [escapeBy, hc]
    rw [written, alone, hc, hname]
    exact replace_word_append '&' name cs
  · have same : escapeBy (row :: rows) c = escapeBy rows c := by simp [escapeBy, hc]
    rw [same]
    exact h.replace_escapeBy_tail (fun hr he ↦ hc (by rw [hr, he])) cs

/-- Reading back undoes escaping by the table. -/
theorem readBack_flatMap (h : Legible table) (cs : List Char) :
    readBack table (cs.flatMap (escapeBy table)) = cs := by
  induction table with
  | nil => exact List.flatMap_singleton' cs
  | cons row rows ih =>
    rw [readBack, List.foldl_cons, replace_flatMap h.replace_escapeBy]
    exact ih h.tail

/-- A first row that is not for the ampersand may have been left out when escaping. -/
theorem readBack_flatMap_tail (h : Legible (row :: rows)) (hr : row.2 ≠ ['&']) (cs : List Char) :
    readBack (row :: rows) (cs.flatMap (escapeBy rows)) = cs := by
  have unused := replace_flatMap
    (fun c cs ↦ h.replace_escapeBy_tail (c := c) (fun he ↦ absurd he hr) cs) cs
  rw [readBack, List.foldl_cons, unused]
  exact h.tail.readBack_flatMap cs

end Legible

/-! ## The escapes of markup -/

/-- The escapes that are written: that of the space only where spacing is preserved. -/
def writtenEntities (preserveSpacing : Bool) : List (List Char × List Char) :=
  if preserveSpacing then entities else entities.tail

/-- Characters are escaped by the table of the escapes that are written. -/
theorem escapeChar_eq (preserveSpacing : Bool) (c : Char) :
    escapeChar preserveSpacing c = escapeBy (writtenEntities preserveSpacing) c := by
  by_cases special : c ∈ ['&', '<', '>', '"', '\'', ' ']
  · simp only [List.mem_cons, List.not_mem_nil, or_false] at special
    rcases special with rfl | rfl | rfl | rfl | rfl | rfl <;> cases preserveSpacing <;> rfl
  · simp only [List.mem_cons, List.not_mem_nil, or_false, not_or] at special
    obtain ⟨amp, lt, gt, quot, apos, space⟩ := special
    have plain : escapeChar preserveSpacing c = [c] := by
      simp [escapeChar, amp, lt, gt, quot, apos, space]
    have absent : ∀ row ∈ entities, row.2 ≠ [c] := by
      simp [entities, Ne.symm amp, Ne.symm lt, Ne.symm gt, Ne.symm quot, Ne.symm apos,
        Ne.symm space]
    rw [plain, escapeBy_of_forall]
    cases preserveSpacing
    · exact fun row hm ↦ absent row (List.mem_of_mem_tail hm)
    · exact absent

/-- Reading the escapes back gives the characters that were escaped. -/
theorem readBack_escape (preserveSpacing : Bool) (cs : List Char) :
    readBack entities (escape preserveSpacing cs) = cs := by
  have coded : escape preserveSpacing cs =
      cs.flatMap (escapeBy (writtenEntities preserveSpacing)) :=
    congrArg cs.flatMap (funext (escapeChar_eq preserveSpacing))
  rw [coded]
  cases preserveSpacing with
  | true => exact legible_entities.readBack_flatMap cs
  | false => exact legible_entities.readBack_flatMap_tail (by decide) cs

end Teletype.Markup
