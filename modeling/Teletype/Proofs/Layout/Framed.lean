import Teletype.Proofs.Layout.Wrap
/-!
# The width of framed text

Margin, border and padding take the same columns away on both sides of every line, and aligning
fills up what they leave, so that a framed line takes exactly the columns. Where nothing is left for
the text, one blank line stands for it. Without a frame lines end where their text ends, within the
columns. A text that is repeated across the width takes exactly the columns either way.
-/

namespace Teletype

/-- Whether anything is put around the lines of a text. -/
def TextOptions.IsFramed (o : TextOptions) : Prop :=
  0 < o.margin ∨ o.border?.isSome ∨ 0 < o.padding

/-- Nothing that is put around lines or fills them up is a line feed. -/
structure TextOptions.IsUnbroken (o : TextOptions) : Prop where
  margin : o.marginGlyph? ≠ some '\n'
  border : o.border? ≠ some '\n'
  pad : o.pad? ≠ some '\n'
  fill : o.fill? ≠ some '\n'

namespace Layout

variable {columns inner : Nat} {o : TextOptions} {cs line : List Char}

/-! ## Frames -/

/-- A frame takes columns. -/
theorem isFramed_iff : o.IsFramed ↔ 0 < chrome o := by
  unfold TextOptions.IsFramed chrome
  by_cases bordered : o.border?.isSome
  · simp only [bordered, if_true, true_or, or_true, true_iff]
    omega
  · simp only [bordered, if_false, Bool.false_eq_true, false_or]
    omega

/-- Half of the columns of a frame are on either side. -/
theorem length_edge (o : TextOptions) : 2 * (edge o).length = chrome o := by
  unfold edge chrome
  cases o.border? <;> simp <;> omega

/-- A glyph that may be left out is no line feed, nor is the blank that stands for it. -/
private theorem getD_ne_feed {glyph : Option Char} (unbroken : glyph ≠ some '\n') :
    glyph.getD ' ' ≠ '\n' := by
  cases glyph with
  | none => decide
  | some c => exact fun feed ↦ unbroken (congrArg some feed)

/-- Lines are filled up without line feeds. -/
theorem fill_ne_feed (unbroken : o.IsUnbroken) : (o.fill?.or o.pad?).getD ' ' ≠ '\n' := by
  refine getD_ne_feed ?_
  cases given : o.fill? with
  | none => exact unbroken.pad
  | some c =>
    rw [Option.some_or, ← given]
    exact unbroken.fill

/-- No side of a frame holds a line feed. -/
theorem feed_not_mem_edge (unbroken : o.IsUnbroken) : '\n' ∉ edge o := by
  unfold edge
  rw [List.mem_append, List.mem_append, not_or, not_or]
  refine ⟨⟨fun feed ↦ ?_, fun feed ↦ ?_⟩, fun feed ↦ ?_⟩
  · exact getD_ne_feed unbroken.margin (List.eq_of_mem_replicate feed).symm
  · exact unbroken.border (Option.mem_toList.mp feed)
  · exact getD_ne_feed unbroken.pad (List.eq_of_mem_replicate feed).symm

/-! ## Framed lines -/

/-- A line that is to be filled takes exactly the columns. -/
theorem length_align_of_fillLine (short : line.length ≤ columns) (alignment : Align)
    (fill : Char) : (align columns alignment fill true line).length = columns := by
  cases alignment <;> simp [align] <;> omega

/-- A line that takes all columns is left as it is. -/
theorem align_of_full (full : columns ≤ line.length) (alignment : Align) (fill : Char)
    (fillLine : Bool) : align columns alignment fill fillLine line = line := by
  have no_slack : columns - line.length = 0 := Nat.sub_eq_zero_of_le full
  cases alignment <;> simp [align, no_slack]

/-- A framed line takes the columns of its frame and those of its text. -/
theorem length_framed (inner : Nat) (o : TextOptions) (line : List Char) :
    (framed inner o line).length =
      chrome o + (align inner o.align ((o.fill?.or o.pad?).getD ' ')
        (decide (0 < chrome o)) line).length := by
  have sides := length_edge o
  rw [framed, List.length_append, List.length_append, List.length_reverse]
  omega

/-- A framed line holds no line feed. -/
theorem feed_not_mem_framed (unbroken : o.IsUnbroken) (h : '\n' ∉ line) :
    '\n' ∉ framed inner o line := by
  have side := feed_not_mem_edge unbroken
  intro feed
  rw [framed, List.mem_append, List.mem_append, List.mem_reverse] at feed
  rcases feed with (feed | feed) | feed
  · exact side feed
  · rcases mem_of_mem_align feed with feed | feed
    · exact h feed
    · exact fill_ne_feed unbroken feed.symm
  · exact side feed

/-- A text that is repeated takes exactly the columns, unless it is empty. -/
theorem length_repeatTo (some_text : cs ≠ []) (columns : Nat) :
    (repeatTo columns cs).length = columns := by
  simp [repeatTo, some_text]

/-! ## Framed text -/

/-- A frame without room gives one blank line. -/
theorem format_of_isCrowded (crowded : isCrowded columns o = true) (cs : List Char) :
    format columns o cs = List.replicate columns ' ' := by
  rw [format, if_pos crowded]

/-- A frame with room is put around each line. -/
theorem format_of_roomy (roomy : isCrowded columns o = false) (cs : List Char) :
    format columns o cs =
      joinLines ((rawLines (columns - chrome o) o cs).map (framed (columns - chrome o) o)) := by
  rw [format, if_neg (by simp [roomy])]

/-- A text that is repeated across the width takes exactly the columns. -/
theorem length_format_of_fillWidth (filling : o.fillWidth = true) (some_text : cs ≠ []) :
    (format columns o cs).length = columns := by
  cases crowded : isCrowded columns o with
  | true => rw [format_of_isCrowded crowded, List.length_replicate]
  | false =>
    have room : chrome o < columns := by simpa [isCrowded, filling] using crowded
    have once : rawLines (columns - chrome o) o cs = [repeatTo (columns - chrome o) cs] := by
      rw [rawLines, if_pos filling]
    have width := length_repeatTo some_text (columns - chrome o)
    rw [format_of_roomy crowded, once, List.map_singleton, joinLines, length_framed,
      align_of_full (Nat.le_of_eq width.symm), width]
    omega

/-- The lines of framed text take exactly the columns. -/
theorem length_of_isFramed (wrapped : o.fillWidth = false) (spaced : o.keepsSpacing = false)
    (unbroken : o.IsUnbroken) (isFramed : o.IsFramed)
    (h : line ∈ Text.linesOf (format columns o cs)) : line.length = columns := by
  have frame : 0 < chrome o := isFramed_iff.mp isFramed
  cases crowded : isCrowded columns o with
  | true =>
    have blank : '\n' ∉ List.replicate columns ' ' := fun feed ↦
      absurd (List.eq_of_mem_replicate feed) (by decide)
    rw [format_of_isCrowded crowded, Text.linesOf_of_not_mem blank] at h
    rw [List.mem_singleton.mp h, List.length_replicate]
  | false =>
    have room : chrome o < columns := by simpa [isCrowded, frame] using crowded
    have lines : rawLines (columns - chrome o) o cs = wrap (columns - chrome o) cs := by
      simp [rawLines, wrapped, spaced]
    have pieces (raw : List Char) (mem : raw ∈ wrap (columns - chrome o) cs) :=
      piece_of_mem_wrap (Nat.sub_pos_of_lt room) mem
    rw [format_of_roomy crowded, lines, linesOf_joinLines] at h
    · obtain ⟨raw, inside, rfl⟩ := List.mem_map.mp h
      rw [length_framed, decide_eq_true frame, length_align_of_fillLine (pieces raw inside).1]
      omega
    · exact fun empty ↦ wrap_ne_nil _ _ (List.map_eq_nil_iff.mp empty)
    · intro line mem
      obtain ⟨raw, inside, rfl⟩ := List.mem_map.mp mem
      exact feed_not_mem_framed unbroken (pieces raw inside).2

/-- Options without a frame that wrap the text are bare. -/
theorem isBare_of_not_isFramed (wrapped : o.fillWidth = false) (spaced : o.keepsSpacing = false)
    (unbroken : o.IsUnbroken) (frameless : ¬ o.IsFramed) : o.IsBare := by
  simp only [TextOptions.IsFramed, not_or, Nat.pos_iff_ne_zero, not_not, Option.isSome_iff_ne_none]
    at frameless
  obtain ⟨margin, border, padding⟩ := frameless
  exact ⟨wrapped, spaced, margin, border, padding, fill_ne_feed unbroken⟩

/-- A text that is repeated across the width takes exactly the columns. Text that is wrapped takes
exactly the columns in each line when there is a frame, even one that leaves no room for it and even
when there are no columns, and at most the columns when there is none. -/
theorem format_keeps_width (columns : Nat) (o : TextOptions) (cs : List Char) :
    (o.fillWidth = true → cs ≠ [] → (format columns o cs).length = columns) ∧
      (o.fillWidth = false → o.keepsSpacing = false → o.IsUnbroken →
        (o.IsFramed → ∀ line ∈ Text.linesOf (format columns o cs), line.length = columns) ∧
        (¬ o.IsFramed → 0 < columns →
          ∀ line ∈ Text.linesOf (format columns o cs), line.length ≤ columns)) := by
  refine ⟨length_format_of_fillWidth, fun wrapped spaced unbroken ↦ ⟨fun isFramed line mem ↦ ?_,
    fun frameless positive ↦ ?_⟩⟩
  · exact length_of_isFramed wrapped spaced unbroken isFramed mem
  · exact isWithin_format (isBare_of_not_isFramed wrapped spaced unbroken frameless) positive cs

/-- A text in a box with a margin of dots. -/
def boxed : TextOptions :=
  { margin := 1, padding := 1, borderChar := some "|", marginChar := some "." }

/-- At fourteen columns a boxed text takes them in both of its lines, and at eight columns the box
leaves two for the text that is repeated in it. -/
theorem boxed_text_takes_columns :
    boxed.IsUnbroken ∧ boxed.IsFramed ∧
      Text.linesOf (format 14 boxed "one two three".toList) =
        [".| one two  |.".toList, ".| three    |.".toList] ∧
      (∀ line ∈ Text.linesOf (format 14 boxed "one two three".toList), line.length = 14) ∧
      format 8 { boxed with fillWidth := true } "-=+".toList = ".| -= |.".toList ∧
      (format 8 { boxed with fillWidth := true } "-=+".toList).length = 8 := by
  have unbroken : boxed.IsUnbroken := ⟨by decide, by decide, by decide, by decide⟩
  have isFramed : boxed.IsFramed := .inl (by decide)
  obtain ⟨-, wrapped⟩ := format_keeps_width 14 boxed "one two three".toList
  obtain ⟨repeated, -⟩ := format_keeps_width 8 { boxed with fillWidth := true } "-=+".toList
  exact ⟨unbroken, isFramed, by decide +kernel, (wrapped rfl rfl unbroken).1 isFramed,
    by decide +kernel, repeated rfl (by decide)⟩

end Layout

end Teletype
