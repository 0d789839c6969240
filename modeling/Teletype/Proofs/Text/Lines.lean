import Mathlib.Data.List.Basic
import Teletype.Text.Blank
/-!
# The lines of a text

A text has one line more than it has line feeds, its lines put together are the text without them,
and a part of a text without line feeds lies within one line. From this follows what lines can be
made of by leaving characters out: where line feeds are left out as well, lines grow together, and
no line gets longer than all that could have grown into it.
-/

namespace Teletype.Text

variable {cs part line : List Char}

/-- The first line of a text goes up to the first line feed. -/
theorem exists_linesOf (cs : List Char) :
    ∃ rest, linesOf cs = cs.takeWhile (· ≠ '\n') :: rest := by
  induction cs with
  | nil => exact ⟨[], rfl⟩
  | cons c cs ih =>
    obtain ⟨rest, lines⟩ := ih
    by_cases feed : c = '\n'
    · exact ⟨linesOf cs, by simp [linesOf, feed]⟩
    · exact ⟨rest, by simp [linesOf, feed, lines]⟩

/-- A text has one line more than line feeds. -/
theorem length_linesOf (cs : List Char) : (linesOf cs).length = cs.count '\n' + 1 := by
  induction cs with
  | nil => rfl
  | cons c cs ih =>
    obtain ⟨rest, lines⟩ := exists_linesOf cs
    by_cases feed : c = '\n'
    · simp [linesOf, feed, ih]
    · rw [lines] at ih
      simpa [linesOf, feed, lines] using ih

/-- The lines of a text together are the text without its line feeds. -/
theorem flatten_linesOf (cs : List Char) : (linesOf cs).flatten = cs.filter (· ≠ '\n') := by
  induction cs with
  | nil => rfl
  | cons c cs ih =>
    obtain ⟨rest, lines⟩ := exists_linesOf cs
    by_cases feed : c = '\n'
    · simp [linesOf, feed, ih]
    · rw [lines] at ih
      simpa [linesOf, feed, lines] using ih

/-- A line is a part of the text. -/
theorem isInfix_of_mem_linesOf (h : line ∈ linesOf cs) : line <:+: cs := by
  induction cs generalizing line with
  | nil => simp_all [linesOf]
  | cons c cs ih =>
    obtain ⟨rest, lines⟩ := exists_linesOf cs
    by_cases feed : c = '\n'
    · rw [linesOf, if_pos feed, List.mem_cons] at h
      rcases h with rfl | h
      · exact List.nil_infix
      · exact (ih h).trans (List.suffix_cons c cs).isInfix
    · rw [linesOf, if_neg feed, lines] at h
      rcases List.mem_cons.mp h with rfl | h
      · exact (List.prefix_cons_inj c |>.mpr (List.takeWhile_prefix _)).isInfix
      · exact (ih (lines ▸ List.mem_cons_of_mem _ h)).trans (List.suffix_cons c cs).isInfix

/-- A line holds no line feed. -/
theorem not_mem_of_mem_linesOf (h : line ∈ linesOf cs) : '\n' ∉ line := by
  intro feed
  have inside : '\n' ∈ (linesOf cs).flatten := List.mem_flatten.mpr ⟨line, h, feed⟩
  rw [flatten_linesOf] at inside
  simpa using (List.mem_filter.mp inside).2

/-- A part of a text without line feeds lies within a line. -/
theorem exists_line_of_isInfix (within : part <:+: cs) (unbroken : '\n' ∉ part) :
    ∃ line ∈ linesOf cs, part <:+: line := by
  induction cs with
  | nil => exact ⟨[], List.mem_cons_self, within⟩
  | cons c cs ih =>
    rcases List.infix_cons_iff.mp within with start | later
    · obtain ⟨rest, lines⟩ := exists_linesOf (c :: cs)
      refine ⟨_, lines ▸ List.mem_cons_self, ?_⟩
      obtain ⟨behind, whole⟩ := start
      have shown : ∀ d ∈ part, decide (d ≠ '\n') = true := by
        intro d mem
        exact decide_eq_true (ne_of_mem_of_not_mem mem unbroken)
      rw [← whole, List.takeWhile_append_of_pos shown]
      exact (List.prefix_append part _).isInfix
    · obtain ⟨line, mem, inside⟩ := ih later
      by_cases feed : c = '\n'
      · exact ⟨line, by rw [linesOf, if_pos feed]; exact List.mem_cons_of_mem _ mem, inside⟩
      · obtain ⟨rest, lines⟩ := exists_linesOf cs
        rw [linesOf, if_neg feed, lines]
        rcases List.mem_cons.mp (lines ▸ mem) with rfl | mem
        · exact ⟨_, List.mem_cons_self, inside.trans (List.suffix_cons c _).isInfix⟩
        · exact ⟨line, List.mem_cons_of_mem _ mem, inside⟩

/-- A text without line feeds is its only line. -/
theorem linesOf_of_not_mem (unbroken : '\n' ∉ cs) : linesOf cs = [cs] := by
  induction cs with
  | nil => rfl
  | cons c cs ih =>
    rw [List.mem_cons, not_or] at unbroken
    rw [linesOf, if_neg (Ne.symm unbroken.1), ih unbroken.2]

/-- A line feed ends a line. -/
theorem linesOf_append_feed (unbroken : '\n' ∉ line) (cs : List Char) :
    linesOf (line ++ '\n' :: cs) = line :: linesOf cs := by
  induction line with
  | nil => rw [List.nil_append, linesOf, if_pos rfl]
  | cons c line ih =>
    rw [List.mem_cons, not_or] at unbroken
    rw [List.cons_append, linesOf, if_neg (Ne.symm unbroken.1), ih unbroken.2]

/-- Changing characters but not which of them are line feeds changes the characters of each line. -/
theorem linesOf_map {f : Char → Char} (feeds : ∀ c, f c = '\n' ↔ c = '\n') (cs : List Char) :
    linesOf (cs.map f) = (linesOf cs).map (List.map f) := by
  induction cs with
  | nil => rfl
  | cons c cs ih =>
    rw [List.map_cons, linesOf, linesOf, ih]
    by_cases feed : c = '\n'
    · rw [if_pos feed, if_pos ((feeds c).mpr feed)]
      rfl
    · rw [if_neg feed, if_neg fun same ↦ feed ((feeds c).mp same)]
      cases linesOf cs <;> rfl

/-! ## Lines within a width -/

/-- No line of a text is longer than a width. -/
def IsWithin (width : Nat) (cs : List Char) : Prop := ∀ line ∈ linesOf cs, line.length ≤ width

instance (width : Nat) (cs : List Char) : Decidable (IsWithin width cs) :=
  inferInstanceAs (Decidable (∀ line ∈ linesOf cs, line.length ≤ width))

private theorem length_flatten_le {width : Nat} {lines : List (List Char)}
    (h : ∀ line ∈ lines, line.length ≤ width) :
    lines.flatten.length ≤ width * lines.length := by
  induction lines with
  | nil => exact Nat.zero_le _
  | cons line lines ih =>
    obtain ⟨first, later⟩ := List.forall_mem_cons.mp h
    rw [List.flatten_cons, List.length_append, List.length_cons, Nat.mul_succ, Nat.add_comm]
    exact Nat.add_le_add (ih later) first

/-- A part of a text within a width has no more characters than its lines have room for. -/
private theorem length_le_of_isInfix {width : Nat} (h : IsWithin width cs) (within : part <:+: cs) :
    (part.filter (· ≠ '\n')).length ≤ width * (1 + part.count '\n') := by
  have short : ∀ line ∈ linesOf part, line.length ≤ width := by
    intro line mem
    have inText := (isInfix_of_mem_linesOf mem).trans within
    obtain ⟨whole, mem, inside⟩ := exists_line_of_isInfix inText (not_mem_of_mem_linesOf mem)
    exact Nat.le_trans inside.length_le (h whole mem)
  rw [← flatten_linesOf, Nat.add_comm, ← length_linesOf]
  exact length_flatten_le short

/-- Where characters are left out of a text within a width, some line feeds among them, a line that
is left is at most one width longer for each line feed that is left out. -/
theorem IsWithin.of_sublist {width lost : Nat} {shown : List Char} (h : IsWithin width cs)
    (sub : shown.Sublist cs) (feeds : cs.count '\n' = shown.count '\n' + lost) :
    IsWithin (width * (1 + lost)) shown := by
  intro line mem
  have unbroken := not_mem_of_mem_linesOf mem
  obtain ⟨before, behind, rfl⟩ := isInfix_of_mem_linesOf mem
  -- the characters that the line comes from stand together in the text
  obtain ⟨front, back, rfl, subFront, subBack⟩ := List.append_sublist_iff.mp sub
  obtain ⟨front, middle, rfl, subFront, subMiddle⟩ := List.append_sublist_iff.mp subFront
  have none : line.count '\n' = 0 := List.count_eq_zero.mpr unbroken
  have few : middle.count '\n' ≤ lost := by
    have := subFront.count_le '\n'
    have := subBack.count_le '\n'
    simp only [List.count_append] at feeds
    omega
  have fits : line.length ≤ (middle.filter (· ≠ '\n')).length := by
    have kept : line.filter (· ≠ '\n') = line := List.filter_eq_self.mpr fun c mem ↦
      decide_eq_true (ne_of_mem_of_not_mem mem unbroken)
    rw [← kept]
    exact (subMiddle.filter _).length_le
  calc line.length
      ≤ (middle.filter (· ≠ '\n')).length := fits
    _ ≤ width * (1 + middle.count '\n') := length_le_of_isInfix h ⟨front, back, rfl⟩
    _ ≤ width * (1 + lost) := Nat.mul_le_mul_left width (Nat.add_le_add_left few 1)

end Teletype.Text
