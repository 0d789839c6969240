import Teletype.Markup.Slice
import Teletype.Proofs.Markup.Escapes
/-!
# Markup that no text gets into

Whatever a text holds, its markup consists of escaped text and of styled runs of escaped text, and
no character of the text takes part in a tag or ends an attribute. What is still hidden is escaped
text without any tags.
-/

namespace Teletype.Markup

/-! ## Escaped text -/

/-- Text in which nothing can be taken for a tag or for the end of an attribute, and in which every
ampersand begins an escape. Where spacing is preserved there are no spaces in it. -/
structure IsEscaped (preserveSpacing : Bool) (cs : List Char) : Prop where
  no_delimiter : ∀ c ∈ cs, c ∉ ['<', '>', '"', '\'']
  escapes : ∀ rest, '&' :: rest <:+ cs → ∃ row ∈ entities, row.1 <+: '&' :: rest
  no_space : preserveSpacing = true → ' ' ∉ cs

variable {preserveSpacing : Bool} {c : Char} {cs more : List Char}

/-- No text is escaped text. -/
theorem isEscaped_nil : IsEscaped preserveSpacing [] := by
  refine ⟨by simp, fun rest h ↦ ?_, by simp⟩
  cases List.suffix_nil.mp h

/-- Escaped texts one after another are escaped text. -/
theorem IsEscaped.append (h : IsEscaped preserveSpacing cs)
    (h' : IsEscaped preserveSpacing more) : IsEscaped preserveSpacing (cs ++ more) where
  no_delimiter c hc := (List.mem_append.mp hc).elim (h.no_delimiter c) (h'.no_delimiter c)
  escapes rest := by
    rintro ⟨before, hb⟩
    -- the ampersand stands either in the first text or in the second one
    rcases List.append_eq_append_iff.mp hb with ⟨middle, hcs, hrest⟩ | ⟨middle, -, hmore⟩
    · cases middle with
      | nil => exact h'.escapes rest ⟨[], hrest⟩
      | cons c middle =>
        rw [List.cons_append, List.cons.injEq] at hrest
        obtain ⟨rfl, rfl⟩ := hrest
        obtain ⟨row, hm, hp⟩ := h.escapes middle ⟨before, hcs.symm⟩
        exact ⟨row, hm, hp.trans (List.prefix_append ('&' :: middle) more)⟩
    · exact h'.escapes rest ⟨middle, hmore.symm⟩
  no_space hs hm := (List.mem_append.mp hm).elim (h.no_space hs) (h'.no_space hs)

/-- Every escape is escaped text. -/
theorem isEscaped_of_mem_entities {row : List Char × List Char} (h : row ∈ entities) :
    IsEscaped preserveSpacing row.1 := by
  have safe : ∀ row ∈ entities, (∀ c ∈ row.1, c ∉ ['<', '>', '"', '\'']) ∧ ' ' ∉ row.1 := by
    simp [entities]
  obtain ⟨delimiters, spaces⟩ := safe row h
  obtain ⟨name, hname, outside⟩ := legible_entities.exists_name h
  refine ⟨delimiters, fun rest hs ↦ ⟨row, h, ?_⟩, fun _ ↦ spaces⟩
  rw [hname] at hs ⊢
  rcases List.suffix_cons_iff.mp hs with same | inside
  · exact same ▸ List.prefix_refl _
  · exact absurd (inside.subset List.mem_cons_self) outside

/-- A character that needs no escape is escaped text. -/
theorem isEscaped_singleton (h : c ∉ ['&', '<', '>', '"', '\''])
    (space : preserveSpacing = true → c ≠ ' ') : IsEscaped preserveSpacing [c] := by
  rw [List.mem_cons, not_or] at h
  refine ⟨by simpa using h.2, fun rest hs ↦ ?_, fun hp ↦ by simpa using (space hp).symm⟩
  have only : '&' ∈ [c] := hs.subset List.mem_cons_self
  exact absurd (List.mem_singleton.mp only).symm h.1

/-- A character as markup is escaped text. -/
theorem isEscaped_escapeChar (preserveSpacing : Bool) (c : Char) :
    IsEscaped preserveSpacing (escapeChar preserveSpacing c) := by
  rw [escapeChar_eq]
  rcases escapeBy_cases (writtenEntities preserveSpacing) c with
    ⟨row, hm, -, written⟩ | ⟨absent, written⟩
  · rw [written]
    refine isEscaped_of_mem_entities ?_
    cases preserveSpacing with
    | true => exact hm
    | false => exact List.mem_of_mem_tail hm
  · have delimiters : ∀ d ∈ ['&', '<', '>', '"', '\''],
        ∃ row ∈ writtenEntities preserveSpacing, row.2 = [d] := by
      cases preserveSpacing <;> simp [writtenEntities, entities]
    rw [written]
    refine isEscaped_singleton (fun hd ↦ ?_) ?_
    · obtain ⟨row, hm, hr⟩ := delimiters c hd
      exact absent row hm hr
    · rintro rfl rfl
      exact absent _ List.mem_cons_self rfl

/-- Characters as markup are escaped text. -/
theorem isEscaped_escape (preserveSpacing : Bool) (cs : List Char) :
    IsEscaped preserveSpacing (escape preserveSpacing cs) := by
  induction cs with
  | nil => exact isEscaped_nil
  | cons c cs ih => exact (isEscaped_escapeChar preserveSpacing c).append ih

/-- Something is left of characters that are escaped, since they can be read back. -/
theorem escape_ne_nil (h : cs ≠ []) : escape preserveSpacing cs ≠ [] := by
  intro empty
  have back := readBack_escape preserveSpacing cs
  rw [empty] at back
  exact h back.symm

/-! ## Styled runs -/

/-- What may stand in the name of a class. -/
def IsClassChar (c : Char) : Prop :=
  ('A' ≤ c ∧ c ≤ 'Z') ∨ ('a' ≤ c ∧ c ≤ 'z') ∨ ('0' ≤ c ∧ c ≤ '9') ∨ c = '_' ∨ c = '-' ∨ c = ' '

/-- A sequence of escaped texts and of styled runs of escaped text. -/
inductive IsMarkup (preserveSpacing : Bool) : List Char → Prop
  | nil : IsMarkup preserveSpacing []
  | run {text rest : List Char} (escaped : IsEscaped preserveSpacing text)
    (others : IsMarkup preserveSpacing rest) : IsMarkup preserveSpacing (text ++ rest)
  | span {className text rest : List Char} (safe : ∀ c ∈ className, IsClassChar c)
    (escaped : IsEscaped preserveSpacing text) (nonempty : text ≠ [])
    (others : IsMarkup preserveSpacing rest) :
    IsMarkup preserveSpacing
      ("<span class=\"".toList ++ className ++ "\">".toList ++ text ++ "</span>".toList ++ rest)

/-- The characters of a class name that are kept may stand in it. -/
theorem isClassChar_of_mem_escapeClass (h : c ∈ escapeClass cs) : IsClassChar c := by
  have safe : isSafeInClass c = true := (List.mem_filter.mp h).2
  delta isSafeInClass Char.isAlphanum Char.isAlpha Char.isUpper Char.isLower Char.isDigit at safe
  simp only [Bool.or_eq_true, Bool.and_eq_true, decide_eq_true_eq, beq_iff_eq] at safe
  unfold IsClassChar
  simp only [Char.le_def]
  rcases safe with ((((upper | lower) | digit) | underscore) | hyphen) | space
  · exact .inl upper
  · exact .inr (.inl lower)
  · exact .inr (.inr (.inl digit))
  · exact .inr (.inr (.inr (.inl underscore)))
  · exact .inr (.inr (.inr (.inr (.inl hyphen))))
  · exact .inr (.inr (.inr (.inr (.inr space))))

namespace SlicedText

/-- The markup of the first characters of some segments is a sequence of escaped texts and of styled
runs, wherever the cut is. -/
theorem isMarkup_revealedMarkup (preserveSpacing : Bool) (count : Nat) (segments : List Segment) :
    IsMarkup preserveSpacing (revealedMarkup preserveSpacing count segments) := by
  induction segments generalizing count with
  | nil => exact .nil
  | cons segment rest ih =>
    cases segment with
    | plain text => exact .run (isEscaped_escape preserveSpacing _) (ih _)
    | styled className text =>
      rw [revealedMarkup, segmentMarkup]
      cases hs : ((Segment.styled className text).chars.take count).isEmpty with
      | true => exact ih _
      | false =>
        refine .span (fun c hc ↦ isClassChar_of_mem_escapeClass hc) (isEscaped_escape _ _) ?_ (ih _)
        exact escape_ne_nil (by simpa using hs)

/-- Whatever a text holds and wherever it is cut, what is revealed of it is a sequence of escaped
texts and of styled runs, and what is hidden is escaped text. -/
theorem isMarkup_slice (formatted : List Char) (preserveSpacing isPassword : Bool)
    (count : Option Nat) (fallback : Char) :
    let part := (SlicedText.of formatted preserveSpacing isPassword).slice count fallback
    IsMarkup preserveSpacing part.revealed ∧ IsEscaped preserveSpacing part.hidden :=
  ⟨isMarkup_revealedMarkup preserveSpacing _ _, isEscaped_escape preserveSpacing _⟩

-- a class may hold anything, and so may the text behind it
example : ((SlicedText.of "{a=b:<i>&}".toList false false).slice none '.').revealed =
    "<span class=\"ab\">&lt;i&gt;&amp;</span>".toList := by decide +kernel

end SlicedText

end Teletype.Markup
