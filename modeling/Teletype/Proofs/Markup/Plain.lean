import Teletype.Proofs.Markup.Safe
/-!
# The plain text of revealed markup

On a terminal that knows no markup a sliced text shows just its own characters: what is revealed
reads as the characters before the cut, the cursor is the character at the cut, and what is hidden
reads as those behind it. No tag shows, no escape is left, and nothing that the text itself holds is
taken for either.
-/

namespace Teletype.Markup

/-! ## Dropping tags -/

variable {cs : List Char}

/-- Text in which no tag begins is kept. -/
theorem dropTags_append_of_not_mem (h : '<' ∉ cs) (rest : List Char) :
    dropTags false (cs ++ rest) = cs ++ dropTags false rest := by
  induction cs with
  | nil => rfl
  | cons c cs ih =>
    rw [List.mem_cons, not_or] at h
    simp only [List.cons_append, dropTags, if_neg (Ne.symm h.1), Bool.false_eq_true, ↓reduceIte,
      ih h.2]

private theorem dropTags_inside (h : '>' ∉ cs) (rest : List Char) :
    dropTags true (cs ++ '>' :: rest) = dropTags false rest := by
  induction cs with
  | nil => rfl
  | cons c cs ih =>
    rw [List.mem_cons, not_or] at h
    rw [List.cons_append, dropTags]
    split
    · exact ih h.2
    · simpa [Ne.symm h.1] using ih h.2

/-- A tag is dropped from its beginning to its end. -/
theorem dropTags_tag (h : '>' ∉ cs) (rest : List Char) :
    dropTags false ('<' :: cs ++ '>' :: rest) = dropTags false rest := by
  rw [List.cons_append, dropTags, if_pos rfl]
  exact dropTags_inside h rest

/-- No tag is taken for escaped text. -/
theorem dropTags_escape_append (preserveSpacing : Bool) (cs rest : List Char) :
    dropTags false (escape preserveSpacing cs ++ rest) =
      escape preserveSpacing cs ++ dropTags false rest := by
  refine dropTags_append_of_not_mem (fun hm ↦ ?_) rest
  exact (isEscaped_escape preserveSpacing cs).no_delimiter '<' hm (by decide)

/-- Escaped text reads as the characters that were escaped. -/
theorem plainText_escape (preserveSpacing : Bool) (cs : List Char) :
    plainText (escape preserveSpacing cs) = cs := by
  have untagged := dropTags_escape_append preserveSpacing cs []
  rw [List.append_nil, dropTags, List.append_nil] at untagged
  have back := readBack_escape preserveSpacing cs
  rw [← untagged] at back
  exact back

namespace SlicedText

/-! ## Dropping the tags of styled runs -/

/-- Without its tags the markup of a segment is the escaped text that is shown of it. -/
theorem dropTags_segmentMarkup_append (preserveSpacing : Bool) (shown : List Char)
    (segment : Segment) (rest : List Char) :
    dropTags false (segmentMarkup preserveSpacing shown segment ++ rest) =
      escape preserveSpacing shown ++ dropTags false rest := by
  cases segment with
  | plain text => exact dropTags_escape_append preserveSpacing shown rest
  | styled className text =>
    unfold segmentMarkup
    cases hs : shown.isEmpty with
    | true =>
      rw [List.isEmpty_iff.mp hs]
      rfl
    | false =>
      have opened : '>' ∉ "span class=\"".toList ++ escapeClass className.toList ++ ['"'] := by
        intro hm
        simp only [List.mem_append] at hm
        rcases hm with (hm | hm) | hm
        · exact absurd hm (by decide)
        · exact absurd (List.mem_filter.mp hm).2 (by decide)
        · exact absurd hm (by decide)
      have closed : '>' ∉ "/span".toList := by decide
      calc dropTags false
            ("<span class=\"".toList ++ escapeClass className.toList ++ "\">".toList ++
              escape preserveSpacing shown ++ "</span>".toList ++ rest)
          = dropTags false
            ('<' :: ("span class=\"".toList ++ escapeClass className.toList ++ ['"']) ++
              '>' :: (escape preserveSpacing shown ++ ('<' :: "/span".toList ++ '>' :: rest))) := by
            simp
        _ = escape preserveSpacing shown ++ dropTags false rest := by
            rw [dropTags_tag opened, dropTags_escape_append, dropTags_tag closed]

/-- Without its tags the markup of the first characters of some segments is the escaped text of
these characters. -/
theorem dropTags_revealedMarkup (preserveSpacing : Bool) (count : Nat) (segments : List Segment) :
    dropTags false (revealedMarkup preserveSpacing count segments) =
      escape preserveSpacing ((segments.flatMap Segment.chars).take count) := by
  induction segments generalizing count with
  | nil => simp [revealedMarkup, dropTags, escape]
  | cons segment rest ih =>
    have behind : count - (segment.chars.take count).length = count - segment.chars.length := by
      rw [List.length_take]
      omega
    rw [revealedMarkup, dropTags_segmentMarkup_append, ih, behind, List.flatMap_cons,
      List.take_append]
    exact List.flatMap_append.symm

/-- The markup of the first characters of some segments reads as these characters. -/
theorem plainText_revealedMarkup (preserveSpacing : Bool) (count : Nat) (segments : List Segment) :
    plainText (revealedMarkup preserveSpacing count segments) =
      (segments.flatMap Segment.chars).take count := by
  have back := readBack_escape preserveSpacing ((segments.flatMap Segment.chars).take count)
  rw [← dropTags_revealedMarkup] at back
  exact back

/-- A text that is cut somewhere reads as it is: what is revealed as the characters before the cut,
the cursor as the one at the cut or, when all is revealed, as the glyph that stands in, and what is
hidden as the characters behind it. -/
theorem plainText_slice (formatted : List Char) (preserveSpacing isPassword : Bool)
    (count : Option Nat) (fallback : Char) :
    let text := SlicedText.of formatted preserveSpacing isPassword
    let upto := min (count.getD text.visible.length) text.visible.length
    let part := text.slice count fallback
    plainText part.revealed = text.visible.take upto ∧
      (∀ inside : upto < text.visible.length, part.cursor = text.visible[upto]) ∧
      (upto = text.visible.length → part.cursor = fallback) ∧
      plainText part.hidden = text.visible.drop (upto + 1) := by
  intro text upto part
  refine ⟨plainText_revealedMarkup preserveSpacing upto text.segments, fun inside ↦ ?_,
    fun ended ↦ ?_, plainText_escape preserveSpacing (text.visible.drop (upto + 1))⟩
  · change text.visible.getD upto fallback = _
    rw [List.getD_eq_getElem?_getD, List.getElem?_eq_getElem inside, Option.getD_some]
  · change text.visible.getD upto fallback = _
    rw [List.getD_eq_getElem?_getD, List.getElem?_eq_none (Nat.le_of_eq ended.symm),
      Option.getD_none]

-- an escape that stands in the text itself is not read back
example : plainText ((SlicedText.of "{a:&lt;}>".toList true false).slice none '.').revealed =
    "&lt;>".toList := by decide +kernel

end SlicedText

end Teletype.Markup
