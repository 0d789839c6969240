import Teletype.Markup.Slice
import Teletype.Proofs.Layout.Width
/-!
# The width of shown text

A text is laid out as it is written, with the braces and class names of its styled runs, and these
are taken out afterwards. What stays is in its order and keeps its line feeds, except for those that
the layout put into a class name. Each of these is lost, and the line goes on beyond the columns.
-/

namespace Teletype.Markup

variable {before cs lead afterOpen inside rest : List Char}

/-! ## Taking class names out -/

/-- The characters between two braces up to the colon, where the class name stands. -/
def rawName (inside : List Char) : List Char := inside.takeWhile (· ≠ ':')

/-- The class names of the styled runs of a text as they are written, blanks included. -/
def rawNames (cs : List Char) : List (List Char) :=
  match _hopen : Text.splitAtFirst '\x7b' cs with
  | none => []
  | some (_, afterOpen) =>
    match _hclose : Text.splitAtFirst '\x7d' afterOpen with
    | none => []
    | some (inside, rest) =>
      if (styledRun? inside).isSome then rawName inside :: rawNames rest else rawNames rest
termination_by cs.length
decreasing_by
  all_goals
    have := Text.length_of_splitAtFirst _hopen
    have := Text.length_of_splitAtFirst _hclose
    omega

private theorem rawNames_of_unopened (unopened : Text.splitAtFirst '\x7b' cs = none) :
    rawNames cs = [] := by
  rw [rawNames]
  split <;> simp_all

private theorem rawNames_of_unclosed (opened : Text.splitAtFirst '\x7b' cs = some (lead, afterOpen))
    (unclosed : Text.splitAtFirst '\x7d' afterOpen = none) : rawNames cs = [] := by
  rw [rawNames]
  split
  · rfl
  · split <;> simp_all

private theorem rawNames_of_closed (opened : Text.splitAtFirst '\x7b' cs = some (lead, afterOpen))
    (closed : Text.splitAtFirst '\x7d' afterOpen = some (inside, rest)) :
    rawNames cs =
      if (styledRun? inside).isSome then rawName inside :: rawNames rest else rawNames rest := by
  rw [rawNames]
  split
  · simp_all
  · split <;> simp_all

/-- A styled run shows what is written behind the colon. -/
theorem eq_of_styledRun {run : Segment} (h : styledRun? inside = some run) :
    inside = rawName inside ++ ':' :: run.chars := by
  unfold styledRun? at h
  cases split : Text.splitAtFirst ':' inside with
  | none => simp [split] at h
  | some parts =>
    obtain ⟨name, text⟩ := parts
    have shown : run.chars = text := by
      simp only [split, Option.bind_eq_bind, Option.bind_some] at h
      split at h
      · exact Option.some.inj h ▸ rfl
      · cases h
    rw [shown, rawName, Text.takeWhile_of_splitAtFirst split]
    exact Text.eq_of_splitAtFirst split

/-- Plain characters are shown as they are. -/
theorem chars_plainRun (cs : List Char) : (plainRun cs).flatMap Segment.chars = cs := by
  cases cs with
  | nil => rfl
  | cons c cs => exact List.append_nil _

/-- A text with a pair of braces is what is before, between and behind them. -/
private theorem eq_of_closed (opened : Text.splitAtFirst '\x7b' cs = some (lead, afterOpen))
    (closed : Text.splitAtFirst '\x7d' afterOpen = some (inside, rest)) :
    cs = lead ++ '\x7b' :: (inside ++ '\x7d' :: rest) := by
  rw [← Text.eq_of_splitAtFirst closed]
  exact Text.eq_of_splitAtFirst opened

/-- What is shown of a text with a styled run is what is before the run, the run, and what is shown
of the rest. -/
private theorem chars_of_styled (run : Segment) (segments : List Segment) :
    (plainRun (before ++ lead) ++ run :: segments).flatMap Segment.chars =
      before ++ lead ++ (run.chars ++ segments.flatMap Segment.chars) := by
  rw [List.flatMap_append, chars_plainRun, List.flatMap_cons]

/-- The segments of a text show characters of it in their order. -/
theorem sublist_segmentsFrom (before cs : List Char) :
    ((segmentsFrom before cs).flatMap Segment.chars).Sublist (before ++ cs) := by
  fun_induction segmentsFrom before cs with
  | case1 before cs unopened => rw [chars_plainRun]
  | case2 before cs lead afterOpen opened unclosed => rw [chars_plainRun]
  | case3 before cs lead afterOpen opened inside rest closed run styled ih =>
    have shown : run.chars.Sublist inside := by
      conv_rhs => rw [eq_of_styledRun styled]
      exact (List.sublist_cons_self ':' run.chars).trans (List.sublist_append_right _ _)
    have behind : (run.chars ++ (segmentsFrom [] rest).flatMap Segment.chars).Sublist
        (inside ++ '\x7d' :: rest) := shown.append (ih.trans (List.sublist_cons_self '\x7d' rest))
    rw [chars_of_styled, eq_of_closed opened closed, ← List.append_assoc before lead]
    exact (List.Sublist.refl (before ++ lead)).append (behind.trans (List.sublist_cons_self _ _))
  | case4 before cs lead afterOpen opened inside rest closed unstyled ih =>
    rw [eq_of_closed opened closed]
    simpa using ih

/-- Of the line feeds of a text its segments show all but those in class names. -/
theorem count_segmentsFrom (before cs : List Char) :
    (before ++ cs).count '\n' = ((segmentsFrom before cs).flatMap Segment.chars).count '\n' +
      (rawNames cs).flatten.count '\n' := by
  fun_induction segmentsFrom before cs with
  | case1 before cs unopened =>
    rw [chars_plainRun, rawNames_of_unopened unopened]
    rfl
  | case2 before cs lead afterOpen opened unclosed =>
    rw [chars_plainRun, rawNames_of_unclosed opened unclosed]
    rfl
  | case3 before cs lead afterOpen opened inside rest closed run styled ih =>
    have within : inside.count '\n' = (rawName inside).count '\n' + run.chars.count '\n' := by
      conv_lhs => rw [eq_of_styledRun styled]
      simp
    have whole : cs.count '\n' = lead.count '\n' + (inside.count '\n' + rest.count '\n') := by
      rw [eq_of_closed opened closed]
      simp
    have names : rawNames cs = rawName inside :: rawNames rest := by
      rw [rawNames_of_closed opened closed, if_pos (by simp [styled])]
    rw [List.nil_append] at ih
    rw [chars_of_styled, names]
    simp only [List.count_append, List.flatten_cons]
    omega
  | case4 before cs lead afterOpen opened inside rest closed unstyled ih =>
    rw [rawNames_of_closed opened closed, if_neg (by simp [unstyled]), ← ih,
      eq_of_closed opened closed]
    simp

/-! ## Shown lines -/

/-- Hiding the characters of a password keeps line feeds and makes none. -/
theorem maskChar_eq_feed (c : Char) : maskChar c = '\n' ↔ c = '\n' := by
  unfold maskChar
  split
  · rfl
  · next other => exact iff_of_false (by decide) other

namespace SlicedText

/-- A sliced text shows the characters of its segments, those of a password hidden. -/
theorem visible_of (formatted : List Char) (preserveSpacing isPassword : Bool) :
    (of formatted preserveSpacing isPassword).visible =
      ((Markup.segments formatted).flatMap Segment.chars).map
        (if isPassword then maskChar else id) := by
  cases isPassword with
  | false => exact (List.map_id _).symm
  | true => simp [of, visible, List.flatMap_map, List.map_flatMap]

/-- Hiding the characters of a password changes no length. -/
theorem isWithin_visible_of {width : Nat} {formatted : List Char}
    (preserveSpacing isPassword : Bool)
    (h : Text.IsWithin width ((Markup.segments formatted).flatMap Segment.chars)) :
    Text.IsWithin width (of formatted preserveSpacing isPassword).visible := by
  have feeds (c : Char) : (if isPassword then maskChar else id) c = '\n' ↔ c = '\n' := by
    cases isPassword with
    | false => rfl
    | true => exact maskChar_eq_feed c
  rw [visible_of, Text.IsWithin, Text.linesOf_map feeds]
  exact List.forall_mem_map.mpr fun line mem ↦ by simpa using h line mem

/-- A line that is shown of a text laid out with bare options is within the columns, and beyond them
by at most as many columns again for each line feed that the layout put into a class name. -/
theorem isWithin_visible_format {columns : Nat} {o : TextOptions} (positive : 0 < columns)
    (bare : o.IsBare) (cs : List Char) :
    let formatted := Layout.format columns o cs
    let visible := (ofOptions formatted o).visible
    Text.IsWithin (columns * (1 + (rawNames formatted).flatten.count '\n')) visible ∧
      ((∀ name ∈ rawNames formatted, '\n' ∉ name) → Text.IsWithin columns visible) := by
  intro formatted visible
  have within : Text.IsWithin (columns * (1 + (rawNames formatted).flatten.count '\n')) visible :=
    isWithin_visible_of _ _ <|
      (Layout.isWithin_format bare positive cs).of_sublist (sublist_segmentsFrom [] formatted)
        (count_segmentsFrom [] formatted)
  refine ⟨within, fun unbroken ↦ ?_⟩
  have none : (rawNames formatted).flatten.count '\n' = 0 := by
    refine List.count_eq_zero.mpr fun mem ↦ ?_
    obtain ⟨name, nameMem, feed⟩ := List.mem_flatten.mp mem
    exact unbroken name nameMem feed
  rwa [none, Nat.add_zero, Nat.mul_one] at within

/-- A line that breaks between two styled runs is shown within the columns. -/
theorem isWithin_visible_airlock :
    let formatted := Layout.format 20 {} "the {alert:airlock} {alert:opens}".toList
    (∀ name ∈ rawNames formatted, '\n' ∉ name) ∧
      Text.IsWithin 20 (ofOptions formatted {}).visible := by
  intro formatted
  have unbroken : ∀ name ∈ rawNames formatted, '\n' ∉ name := by decide +kernel
  exact ⟨unbroken, (isWithin_visible_format (by decide) TextOptions.isBare_default _).2 unbroken⟩

/-- A line that breaks inside of a class name is shown beyond the columns: the word behind the name
comes up to the line that was broken. -/
theorem airlock_beyond_columns :
    let formatted := Layout.format 20 {} "Warning: the {red alert:airlock} opens".toList
    ({} : TextOptions).IsBare ∧ rawNames formatted = ["red\nalert".toList] ∧
      (ofOptions formatted {}).visible = "Warning: the airlock opens".toList ∧
      ¬Text.IsWithin 20 (ofOptions formatted {}).visible :=
  ⟨TextOptions.isBare_default, by decide +kernel⟩

end SlicedText

end Teletype.Markup
