import Teletype.Layout.Frame
import Teletype.Proofs.Text.Lines
/-!
# The width of laid-out text

Wrapped text has lines of at most the number of columns, each of them a piece of a line of the text,
and aligning fills them up to the columns and not beyond. So text that is laid out without a frame
is within its columns.
-/

namespace Teletype

/-- Options that wrap and align a text and do nothing else: no filling of the width, no spacing to
be kept, no frame, and no line feeds to fill up lines with. -/
structure TextOptions.IsBare (o : TextOptions) : Prop where
  fillWidth : o.fillWidth = false
  keepsSpacing : o.keepsSpacing = false
  margin : o.margin = 0
  border : o.border? = none
  padding : o.padding = 0
  fill : (o.fill?.or o.pad?).getD ' ' ≠ '\n'

/-- The options that an item has where none are given are bare. -/
theorem TextOptions.isBare_default : ({} : TextOptions).IsBare :=
  ⟨rfl, rfl, rfl, rfl, rfl, by decide⟩

namespace Layout

variable {columns : Nat} {cs line : List Char}

/-! ## Wrapping -/

/-- A line is broken within the columns. -/
theorem breakPlace_le (columns : Nat) (cs : List Char) : breakPlace columns cs ≤ columns := by
  unfold breakPlace
  cases found : lastSpace? (cs.take columns) with
  | none => exact Nat.le_refl columns
  | some place =>
    obtain ⟨inside, -⟩ := List.getElem?_eq_some_iff.mp (getElem?_of_lastSpace found)
    exact Nat.le_of_lt (Nat.lt_of_lt_of_le inside (List.length_take_le columns cs))

/-- The lines of an overlong line are pieces of it within the columns. -/
theorem piece_of_mem_wrapRest (positive : 0 < columns) (h : line ∈ wrapRest columns cs) :
    line.length ≤ columns ∧ line <:+: cs := by
  induction cs using wrapRest.induct columns with
  | case1 cs short nothing =>
    rw [wrapRest, dif_pos short, if_pos nothing] at h
    cases h
  | case2 cs short something =>
    rw [wrapRest, dif_pos short, if_neg something] at h
    obtain rfl := List.mem_singleton.mp h
    exact ⟨short.resolve_left (Nat.ne_of_gt positive), List.infix_rfl⟩
  | case3 cs long ih =>
    rw [wrapRest, dif_neg long] at h
    rcases List.mem_cons.mp h with rfl | h
    · exact ⟨Nat.le_trans (List.length_take_le _ _) (breakPlace_le columns cs),
        (List.take_prefix _ cs).isInfix⟩
    · obtain ⟨short, inside⟩ := ih h
      have behind : afterBreak columns cs <:+ cs :=
        (List.dropWhile_suffix _).trans (List.drop_suffix _ cs)
      exact ⟨short, inside.trans behind.isInfix⟩

/-- Wrapped lines are pieces of lines of the text within the columns. -/
theorem piece_of_mem_wrap (positive : 0 < columns) (h : line ∈ wrap columns cs) :
    line.length ≤ columns ∧ '\n' ∉ line := by
  obtain ⟨whole, mem, h⟩ := List.mem_flatMap.mp h
  have unbroken := Text.not_mem_of_mem_linesOf mem
  rw [wrapLine] at h
  split at h
  · next short =>
    obtain rfl := List.mem_singleton.mp h
    exact ⟨short.resolve_left (Nat.ne_of_gt positive), unbroken⟩
  · obtain ⟨short, inside⟩ := piece_of_mem_wrapRest positive h
    exact ⟨short, fun feed ↦ unbroken (inside.subset feed)⟩

/-! ## Aligning -/

/-- Aligning fills a line up to the columns and not beyond. -/
theorem length_align_le (short : line.length ≤ columns) (alignment : Align) (fill : Char)
    (fillLine : Bool) : (align columns alignment fill fillLine line).length ≤ columns := by
  unfold align
  cases alignment with
  | left =>
    rw [List.length_append]
    split <;> simp <;> omega
  | center =>
    rw [List.length_append, List.length_append, List.length_replicate]
    split <;> simp <;> omega
  | right =>
    rw [List.length_append, List.length_replicate]
    omega

/-- Aligning puts nothing into a line but the character that fills it up. -/
theorem mem_of_mem_align {alignment : Align} {fill c : Char} {fillLine : Bool}
    (h : c ∈ align columns alignment fill fillLine line) : c ∈ line ∨ c = fill := by
  have filled (n : Nat) (mem : c ∈ List.replicate n fill) : c = fill := List.eq_of_mem_replicate mem
  have behind (n : Nat)
      (mem : c ∈ if fill ≠ ' ' ∨ fillLine = true then List.replicate n fill else []) :
      c = fill := by
    split at mem
    · exact filled n mem
    · cases mem
  unfold align at h
  cases alignment with
  | left => exact (List.mem_append.mp h).imp_right (behind _)
  | center =>
    rcases List.mem_append.mp h with h | h
    · exact (List.mem_append.mp h).symm.imp_right (filled _)
    · exact .inr (behind _ h)
  | right => exact (List.mem_append.mp h).symm.imp_right (filled _)

/-! ## Laying out -/

/-- Joined lines without line feeds are the lines of the joined text. -/
theorem linesOf_joinLines {lines : List (List Char)} (some_line : lines ≠ [])
    (unbroken : ∀ line ∈ lines, '\n' ∉ line) : Text.linesOf (joinLines lines) = lines := by
  induction lines with
  | nil => exact absurd rfl some_line
  | cons line lines ih =>
    obtain ⟨first, later⟩ := List.forall_mem_cons.mp unbroken
    cases lines with
    | nil => rw [joinLines, Text.linesOf_of_not_mem first]
    | cons next lines =>
      rw [joinLines, Text.linesOf_append_feed first, ih (by simp) later]
      simp

/-- Joined lines without line feeds are within a width when each of them is. -/
theorem isWithin_joinLines {lines : List (List Char)}
    (h : ∀ line ∈ lines, line.length ≤ columns ∧ '\n' ∉ line) :
    Text.IsWithin columns (joinLines lines) := by
  by_cases empty : lines = []
  · subst empty
    exact fun line mem ↦ by simp_all [joinLines, Text.linesOf]
  · rw [Text.IsWithin, linesOf_joinLines empty fun line mem ↦ (h line mem).2]
    exact fun line mem ↦ (h line mem).1

/-- Text that is laid out with bare options is its wrapped lines, aligned. -/
theorem format_of_isBare {o : TextOptions} (bare : o.IsBare) :
    format columns o cs = joinLines ((wrap columns cs).map
      (align columns o.align ((o.fill?.or o.pad?).getD ' ') false)) := by
  have frameless : chrome o = 0 := by simp [chrome, bare.margin, bare.border, bare.padding]
  have edgeless : edge o = [] := by simp [edge, bare.margin, bare.border, bare.padding]
  have roomy : isCrowded columns o = false := by simp [isCrowded, frameless, bare.fillWidth]
  have lines : rawLines columns o cs = wrap columns cs := by
    simp [rawLines, bare.fillWidth, bare.keepsSpacing]
  have unframed : framed columns o =
      align columns o.align ((o.fill?.or o.pad?).getD ' ') false := by
    funext line
    simp [framed, edgeless, frameless]
  simp [format, roomy, frameless, lines, unframed]

/-- Text that is laid out with bare options is within its columns. -/
theorem isWithin_format {o : TextOptions} (bare : o.IsBare) (positive : 0 < columns)
    (cs : List Char) : Text.IsWithin columns (format columns o cs) := by
  rw [format_of_isBare bare]
  refine isWithin_joinLines fun line mem ↦ ?_
  obtain ⟨raw, rawMem, rfl⟩ := List.mem_map.mp mem
  obtain ⟨short, unbroken⟩ := piece_of_mem_wrap positive rawMem
  refine ⟨length_align_le short _ _ _, fun feed ↦ ?_⟩
  rcases mem_of_mem_align feed with feed | feed
  · exact unbroken feed
  · exact bare.fill feed.symm

end Layout

end Teletype
