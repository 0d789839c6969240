import Mathlib.Data.List.TakeWhile
import Teletype.Text.Blank
/-!
# Trimming

Dropping the white space on one side of a text or on both sides leaves the part of it behind, before
or between blanks that has no white space at its ends, and there is only one such part.
-/

namespace Teletype.Text

variable {cs rest left right : List Char}

/-- A text of white space only. -/
def IsBlank (cs : List Char) : Prop := ∀ c ∈ cs, isBlank c = true

/-- A text that does not begin with white space. -/
def IsFlush (cs : List Char) : Prop := ∀ c ∈ cs.head?, isBlank c = false

/-- A text that neither begins nor ends with white space. -/
structure IsTrimmed (cs : List Char) : Prop where
  start : IsFlush cs
  ending : IsFlush cs.reverse

/-- A text of some kind that may have white space on either side. -/
def Padded (kind : List Char → Prop) (cs : List Char) : Prop :=
  ∃ left core right, IsBlank left ∧ IsBlank right ∧ kind core ∧ cs = left ++ (core ++ right)

/-- No text at all is blank. -/
theorem isBlank_nil : IsBlank [] := List.forall_mem_nil _

/-- No text at all does not begin with white space. -/
theorem isFlush_nil : IsFlush [] := fun _ mem ↦ by cases mem

/-- The visible characters of ASCII are no white space. -/
theorem isBlank_of_visible {c : Char} (low : 33 ≤ c.toNat) (high : c.toNat ≤ 126) :
    isBlank c = false := by
  simp only [isBlank, inSpans, blankSpans, Span.contains, List.any_cons, List.any_nil,
    Bool.or_false, Bool.or_eq_false_iff, Bool.and_eq_false_iff, decide_eq_false_iff_not]
  omega

/-- A text without white space neither begins nor ends with any. -/
theorem isTrimmed_of_forall (solid : ∀ c ∈ cs, isBlank c = false) : IsTrimmed cs where
  start c first := solid c (List.mem_of_head? first)
  ending c last := solid c (List.mem_reverse.mp (List.mem_of_head? last))

/-- Texts put together are blank when each of them is. -/
theorem isBlank_append : IsBlank (left ++ right) ↔ IsBlank left ∧ IsBlank right :=
  List.forall_mem_append

/-- A text in reverse is as blank as before. -/
theorem isBlank_reverse : IsBlank cs.reverse ↔ IsBlank cs :=
  forall_congr' fun _ ↦ imp_congr_left List.mem_reverse

/-- How a text begins does not depend on what follows it, if anything stands in it. -/
theorem isFlush_append (some_text : rest ≠ []) : IsFlush (rest ++ right) ↔ IsFlush rest := by
  rw [IsFlush, IsFlush, List.head?_append, Option.or_of_isSome (by simpa)]

/-- The white space in front is dropped up to where the text begins. -/
theorem dropWhile_eq_iff :
    cs.dropWhile isBlank = rest ↔ IsFlush rest ∧ ∃ left, IsBlank left ∧ cs = left ++ rest := by
  constructor
  · rintro rfl
    refine ⟨fun c mem ↦ ?_, cs.takeWhile isBlank, fun c mem ↦ List.mem_takeWhile_imp mem,
      (List.takeWhile_append_dropWhile ..).symm⟩
    have stop := List.head?_dropWhile_not isBlank cs
    rw [Option.mem_def.mp mem] at stop
    exact stop
  · rintro ⟨start, left, blank, rfl⟩
    exact dropWhile_append blank start

/-- The white space behind a text is dropped up to where the text ends. -/
theorem trimRightChars_eq_iff :
    trimRightChars cs = rest ↔
      IsFlush rest.reverse ∧ ∃ right, IsBlank right ∧ cs = rest ++ right := by
  rw [trimRightChars, List.reverse_eq_iff, dropWhile_eq_iff]
  refine and_congr_right fun _ ↦ ⟨?_, ?_⟩
  · rintro ⟨back, blank, parts⟩
    refine ⟨back.reverse, isBlank_reverse.mpr blank, ?_⟩
    rw [List.reverse_eq_iff.mp parts, List.reverse_append, List.reverse_reverse]
  · rintro ⟨right, blank, rfl⟩
    exact ⟨right.reverse, isBlank_reverse.mpr blank, List.reverse_append⟩

/-- The white space on either side of a text is dropped up to where the text begins and ends. -/
theorem trimChars_eq_iff :
    trimChars cs = rest ↔
      IsTrimmed rest ∧
        ∃ left right, IsBlank left ∧ IsBlank right ∧ cs = left ++ (rest ++ right) := by
  rw [trimChars, trimRightChars_eq_iff]
  constructor
  · rintro ⟨ending, right, blankRight, dropped⟩
    obtain ⟨start, left, blankLeft, whole⟩ := dropWhile_eq_iff.mp dropped
    refine ⟨⟨?_, ending⟩, left, right, blankLeft, blankRight, whole⟩
    by_cases empty : rest = []
    · exact empty ▸ isFlush_nil
    · exact (isFlush_append empty).mp start
  · rintro ⟨⟨start, ending⟩, left, right, blankLeft, blankRight, rfl⟩
    refine ⟨ending, ?_⟩
    by_cases empty : rest = []
    · -- a blank text is dropped as a whole, its right side with it
      refine ⟨[], isBlank_nil, ?_⟩
      rw [empty, dropWhile_eq_iff]
      exact ⟨isFlush_nil, left ++ right, isBlank_append.mpr ⟨blankLeft, blankRight⟩, by simp⟩
    · refine ⟨right, blankRight, ?_⟩
      rw [dropWhile_eq_iff, isFlush_append empty]
      exact ⟨start, left, blankLeft, rfl⟩

/-- A text of a kind that has no white space at its ends, with white space around it or not, is one
that is of the kind when it is trimmed. -/
theorem padded_iff {kind : List Char → Prop} (trimmed : ∀ core, kind core → IsTrimmed core) :
    Padded kind cs ↔ kind (trimChars cs) := by
  constructor
  · rintro ⟨left, core, right, blankLeft, blankRight, isKind, whole⟩
    have core_eq : trimChars cs = core :=
      trimChars_eq_iff.mpr ⟨trimmed core isKind, left, right, blankLeft, blankRight, whole⟩
    rwa [core_eq]
  · intro isKind
    obtain ⟨-, left, right, blankLeft, blankRight, whole⟩ :=
      trimChars_eq_iff.mp (Eq.refl (trimChars cs))
    exact ⟨left, trimChars cs, right, blankLeft, blankRight, isKind, whole⟩

end Teletype.Text
