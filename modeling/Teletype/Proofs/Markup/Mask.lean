import Teletype.Markup.Slice
import Teletype.Proofs.Markup.Segments
/-!
# What a mask leaves of a text

A text is taken apart before the characters of a password are hidden, so the styled runs of a
password stay styled. What can be told from its slices is how many characters it shows, which of
them are line feeds, and where styled runs of which class attribute begin and go on: two passwords
are sliced alike at every count exactly when they agree in that. Texts without styled runs hide
everything but their length and their line feeds.
-/

namespace Teletype.Markup

/-! ## Marks -/

/-- Where a shown character stands: outside of the styled runs, at the beginning of one with a class
attribute, or further on in it. -/
inductive Place where
  | outside
  | first (className : List Char)
  | later

/-- A shown character and where it stands. -/
structure Mark where
  char : Char
  place : Place

namespace Segment

/-- The marks of the first characters of a segment, given these characters. -/
def marksOf (shown : List Char) : Segment → List Mark
  | plain _ => shown.map (⟨·, .outside⟩)
  | styled className _ =>
    match shown with
    | [] => []
    | c :: shown => ⟨c, .first (escapeClass className.toList)⟩ :: shown.map (⟨·, .later⟩)

/-- The marks of a segment. -/
def marks (segment : Segment) : List Mark := segment.marksOf segment.chars

/-- The characters of marks are those that are shown. -/
theorem map_char_marksOf (shown : List Char) (segment : Segment) :
    (segment.marksOf shown).map Mark.char = shown := by
  cases segment with
  | plain text => simp [marksOf, Function.comp_def]
  | styled className text => cases shown <;> simp [marksOf, Function.comp_def]

/-- The first marks of a segment are the marks of its first characters. -/
theorem take_marksOf (count : Nat) (shown : List Char) (segment : Segment) :
    (segment.marksOf shown).take count = segment.marksOf (shown.take count) := by
  cases segment with
  | plain text => simp [marksOf]
  | styled className text =>
    cases shown with
    | nil => simp [marksOf]
    | cons c shown => cases count <;> simp [marksOf]

/-- No segment begins further on in a styled run. -/
theorem place_of_head?_marksOf {shown : List Char} {segment : Segment} {m : Mark}
    (h : m ∈ (segment.marksOf shown).head?) : m.place ≠ .later := by
  cases segment with
  | plain text =>
    cases shown with
    | nil => cases h
    | cons c shown =>
      cases h
      nofun
  | styled className text =>
    cases shown with
    | nil => cases h
    | cons c shown =>
      cases h
      nofun

end Segment

/-! ## Markup of marks -/

/-- What ends a styled run, in which the text before may have left off. -/
def closing (inRun : Bool) : List Char := if inRun then "</span>".toList else []

/-- The markup of marks, given whether the text before has left off in a styled run. -/
def markup (preserveSpacing : Bool) : Bool → List Mark → List Char
  | inRun, [] => closing inRun
  | inRun, ⟨c, .outside⟩ :: marks =>
    closing inRun ++ escapeChar preserveSpacing c ++ markup preserveSpacing false marks
  | inRun, ⟨c, .first className⟩ :: marks =>
    closing inRun ++ "<span class=\"".toList ++ className ++ "\">".toList ++
      escapeChar preserveSpacing c ++ markup preserveSpacing true marks
  | _, ⟨c, .later⟩ :: marks => escapeChar preserveSpacing c ++ markup preserveSpacing true marks

variable (preserveSpacing : Bool) {inRun : Bool} {ms others : List Mark}

/-- A styled run ends where the next character does not go on with it. -/
theorem markup_closing (h : ∀ m ∈ ms.head?, m.place ≠ .later) :
    markup preserveSpacing true ms = closing true ++ markup preserveSpacing false ms := by
  match ms with
  | [] => simp [markup, closing]
  | ⟨c, .outside⟩ :: ms => simp [markup, closing]
  | ⟨c, .first className⟩ :: ms => simp [markup, closing]
  | ⟨c, .later⟩ :: ms => exact absurd rfl (h _ rfl)

/-- Characters outside of styled runs are written as they are. -/
theorem markup_outside (shown : List Char) (ms : List Mark) :
    markup preserveSpacing false (shown.map (⟨·, .outside⟩) ++ ms) =
      escape preserveSpacing shown ++ markup preserveSpacing false ms := by
  induction shown with
  | nil => rfl
  | cons c shown ih => simp [markup, closing, escape, ih]

/-- Characters further on in a styled run are written as they are. -/
theorem markup_later (shown : List Char) (ms : List Mark) :
    markup preserveSpacing true (shown.map (⟨·, .later⟩) ++ ms) =
      escape preserveSpacing shown ++ markup preserveSpacing true ms := by
  induction shown with
  | nil => rfl
  | cons c shown ih => simp [markup, escape, ih]

/-- The markup of marks begins with that of the segment they begin with. -/
theorem markup_marksOf (shown : List Char) (segment : Segment)
    (h : ∀ m ∈ ms.head?, m.place ≠ .later) :
    markup preserveSpacing false (segment.marksOf shown ++ ms) =
      SlicedText.segmentMarkup preserveSpacing shown segment ++
        markup preserveSpacing false ms := by
  cases segment with
  | plain text => exact markup_outside preserveSpacing shown ms
  | styled className text =>
    cases shown with
    | nil => simp [Segment.marksOf, SlicedText.segmentMarkup]
    | cons c shown =>
      have ended := markup_closing preserveSpacing h
      have behind := markup_later preserveSpacing shown ms
      rw [ended] at behind
      simp only [Segment.marksOf, List.cons_append, markup, behind, closing, if_true,
        Bool.false_eq_true, if_false, SlicedText.segmentMarkup, List.isEmpty_cons, escape,
        List.flatMap_cons, List.append_assoc, List.nil_append]

namespace SlicedText

/-- The marks of a sliced text. -/
def marks (t : SlicedText) : List Mark := t.segments.flatMap Segment.marks

private theorem place_of_head?_flatMap {segments : List Segment} {count : Nat} {m : Mark}
    (h : m ∈ ((segments.flatMap Segment.marks).take count).head?) : m.place ≠ .later := by
  induction segments generalizing count with
  | nil => simp at h
  | cons segment rest ih =>
    rw [List.flatMap_cons, List.take_append, List.head?_append] at h
    cases first : ((segment.marks).take count).head? with
    | some other =>
      rw [first] at h
      cases h
      rw [Segment.marks, Segment.take_marksOf] at first
      exact Segment.place_of_head?_marksOf first
    | none =>
      rw [first] at h
      exact ih h

/-- The markup of the first characters of some segments is that of their first marks. -/
theorem revealedMarkup_eq_markup (count : Nat) (segments : List Segment) :
    revealedMarkup preserveSpacing count segments =
      markup preserveSpacing false ((segments.flatMap Segment.marks).take count) := by
  induction segments generalizing count with
  | nil => simp [revealedMarkup, markup, closing]
  | cons segment rest ih =>
    have behind : count - (segment.chars.take count).length = count - segment.chars.length := by
      rw [List.length_take]
      omega
    have length : segment.marks.length = segment.chars.length := by
      rw [← List.length_map (f := Mark.char), Segment.marks, Segment.map_char_marksOf]
    rw [revealedMarkup, ih, behind, List.flatMap_cons, List.take_append, length]
    rw [Segment.marks, Segment.take_marksOf, markup_marksOf _ _ _ fun m hm ↦
      place_of_head?_flatMap hm]

/-- The characters that are shown are those of the marks. -/
theorem map_char_marks (t : SlicedText) : t.marks.map Mark.char = t.visible := by
  have each (segment : Segment) : segment.marks.map Mark.char = segment.chars :=
    Segment.map_char_marksOf segment.chars segment
  simp [marks, visible, List.map_flatMap, each]

end SlicedText

/-! ## Telling marks from their markup -/

/-- The marks of a password: hidden characters and line feeds, class attributes that end at their
quote, and nothing further on in a styled run that has not begun. -/
inductive IsMasked : Bool → List Mark → Prop
  | nil (inRun : Bool) : IsMasked inRun []
  | outside {inRun : Bool} {c : Char} {marks : List Mark} (hidden : c ∈ ['*', '\n'])
    (rest : IsMasked false marks) : IsMasked inRun (⟨c, .outside⟩ :: marks)
  | first {inRun : Bool} {c : Char} {className : List Char} {marks : List Mark}
    (hidden : c ∈ ['*', '\n']) (quoted : '"' ∉ className) (rest : IsMasked true marks) :
    IsMasked inRun (⟨c, .first className⟩ :: marks)
  | later {c : Char} {marks : List Mark} (hidden : c ∈ ['*', '\n']) (rest : IsMasked true marks) :
    IsMasked true (⟨c, .later⟩ :: marks)

/-- A hidden character or a line feed is written as it is. -/
private theorem escapeChar_of_hidden {c : Char} (hidden : c ∈ ['*', '\n']) :
    escapeChar preserveSpacing c = [c] := by
  simp only [List.mem_cons, List.not_mem_nil, or_false] at hidden
  rcases hidden with rfl | rfl <;> rfl

/-- A hidden character or a line feed begins no tag. -/
private theorem ne_of_hidden {c : Char} (hidden : c ∈ ['*', '\n']) : c ≠ '<' := by
  rintro rfl
  exact absurd hidden (by decide)

/-- Two class attributes that end at their quote in front of the same text are the same. -/
private theorem eq_of_quoted {name other rest more : List Char} (h : '"' ∉ name)
    (h' : '"' ∉ other) (same : name ++ '"' :: rest = other ++ '"' :: more) :
    name = other ∧ rest = more := by
  have split := Text.splitAtFirst_append h rest
  rw [same, Text.splitAtFirst_append h' more] at split
  exact Prod.mk.inj (Option.some.inj split.symm)

/-- The markup of a password tells its marks. -/
theorem eq_of_markup_eq (h : IsMasked inRun ms) (h' : IsMasked inRun others)
    (same : markup preserveSpacing inRun ms = markup preserveSpacing inRun others) :
    ms = others := by
  -- behind the end of a run, marks begin with a hidden character, with a tag or not at all
  induction h generalizing others with
  | nil inRun =>
    cases h' with
    | nil => rfl
    | outside hidden' | first hidden' => simp [markup, escapeChar_of_hidden, hidden'] at same
    | later hidden' =>
      simp [markup, closing, escapeChar_of_hidden, hidden', (ne_of_hidden hidden').symm] at same
  | outside hidden rest ih =>
    cases h' with
    | outside hidden' rest' =>
      obtain ⟨rfl, behind⟩ : _ = _ ∧ markup preserveSpacing false _ = _ := by
        simpa [markup, escapeChar_of_hidden, hidden, hidden'] using same
      rw [ih rest' behind]
    | nil | first => simp [markup, escapeChar_of_hidden, hidden, ne_of_hidden] at same
    | later hidden' =>
      simp [markup, closing, escapeChar_of_hidden, hidden', (ne_of_hidden hidden').symm] at same
  | first hidden quoted rest ih =>
    cases h' with
    | first hidden' quoted' rest' =>
      obtain ⟨rfl, tail⟩ := eq_of_quoted quoted quoted' (by simpa [markup] using same)
      obtain ⟨rfl, behind⟩ : _ = _ ∧ markup preserveSpacing true _ = _ := by
        simpa [escapeChar_of_hidden, hidden, hidden'] using tail
      rw [ih rest' behind]
    | nil => simp [markup] at same
    | outside hidden' =>
      simp [markup, escapeChar_of_hidden, hidden', (ne_of_hidden hidden').symm] at same
    | later hidden' =>
      simp [markup, closing, escapeChar_of_hidden, hidden', (ne_of_hidden hidden').symm] at same
  | later hidden rest ih =>
    cases h' with
    | later hidden' rest' =>
      obtain ⟨rfl, behind⟩ : _ = _ ∧ markup preserveSpacing true _ = _ := by
        simpa [markup, escapeChar_of_hidden, hidden, hidden'] using same
      rw [ih rest' behind]
    | nil | outside | first =>
      simp [markup, closing, escapeChar_of_hidden, hidden, ne_of_hidden] at same

/-! ## Passwords -/

/-- Marks outside of a styled run may stand behind one. -/
theorem IsMasked.behind (h : IsMasked false ms) : IsMasked true ms := by
  cases h with
  | nil => exact .nil true
  | outside hidden rest => exact .outside hidden rest
  | first hidden quoted rest => exact .first hidden quoted rest

/-- Hidden characters of a segment have marks of a password. -/
theorem isMasked_marksOf {shown : List Char} (hidden : ∀ c ∈ shown, c ∈ ['*', '\n'])
    (segment : Segment) (rest : IsMasked false ms) :
    IsMasked false (segment.marksOf shown ++ ms) := by
  cases segment with
  | plain text =>
    induction shown with
    | nil => exact rest
    | cons c shown ih =>
      obtain ⟨first, others⟩ := List.forall_mem_cons.mp hidden
      exact .outside first (ih others)
  | styled className text =>
    have goesOn (shown : List Char) (hidden : ∀ c ∈ shown, c ∈ ['*', '\n']) :
        IsMasked true (shown.map (⟨·, .later⟩) ++ ms) := by
      induction shown with
      | nil => exact rest.behind
      | cons c shown ih =>
        obtain ⟨first, others⟩ := List.forall_mem_cons.mp hidden
        exact .later first (ih others)
    cases shown with
    | nil => exact rest
    | cons c shown =>
      obtain ⟨first, others⟩ := List.forall_mem_cons.mp hidden
      have quoted : '"' ∉ escapeClass className.toList := fun quote ↦
        absurd (List.mem_filter.mp quote).2 (by decide)
      exact .first first quoted (goesOn shown others)

/-- What a mask leaves of a text: its shown characters, hidden but for line feeds, and where each of
them stands. -/
def outline (formatted : List Char) : List Mark := (SlicedText.of formatted false true).marks

/-- Two texts cannot be told from each other as passwords. -/
def AlikeMasked (formatted other : List Char) : Prop :=
  ∀ (preserveSpacing : Bool) (count : Option Nat) (fallback : Char),
    (SlicedText.of formatted preserveSpacing true).slice count fallback =
      (SlicedText.of other preserveSpacing true).slice count fallback

/-- A text without styled runs. -/
def IsUnstyled (formatted : List Char) : Prop := ∀ segment ∈ segments formatted, segment.IsPlain

/-- What a mask leaves of a text are marks of a password. -/
theorem isMasked_outline (formatted : List Char) : IsMasked false (outline formatted) := by
  have each (segs : List Segment) :
      IsMasked false ((segs.map (Segment.mapChars maskChar)).flatMap Segment.marks) := by
    induction segs with
    | nil => exact .nil false
    | cons segment segs ih =>
      refine isMasked_marksOf (fun c hc ↦ ?_) _ ih
      rw [Segment.chars_mapChars] at hc
      obtain ⟨d, -, rfl⟩ := List.mem_map.mp hc
      unfold maskChar
      split <;> simp_all
  exact each (segments formatted)

/-- A text without styled runs shows all its characters, outside of styled runs. -/
theorem outline_of_isUnstyled {formatted : List Char} (unstyled : IsUnstyled formatted) :
    outline formatted = formatted.map fun c ↦ ⟨maskChar c, .outside⟩ := by
  have each {segs : List Segment} {parts : List (List Char)} (plain : ∀ seg ∈ segs, seg.IsPlain)
      (spelled : List.Forall₂ Segment.IsSpelled segs parts) :
      (segs.map (Segment.mapChars maskChar)).flatMap Segment.marks =
        parts.flatten.map fun c ↦ ⟨maskChar c, .outside⟩ := by
    induction spelled with
    | nil => rfl
    | @cons segment part segs parts first others ih =>
      obtain ⟨isPlain, later⟩ := List.forall_mem_cons.mp plain
      cases segment with
      | styled className text => exact isPlain.elim
      | plain text =>
        obtain ⟨_, _, -, -, same⟩ := first
        obtain rfl : part = text := same
        have marks : ((Segment.plain part).mapChars maskChar).marks =
            part.map fun c ↦ ⟨maskChar c, .outside⟩ := List.map_map
        rw [List.map_cons, List.flatMap_cons, ih later, List.flatten_cons, List.map_append, marks]
  obtain ⟨parts, whole, spelled⟩ := (segments_eq_iff.mp (rfl : segments formatted = _)).exists_parts
  conv_rhs => rw [whole]
  exact each unstyled spelled

namespace SlicedText

/-- Texts with the same marks are sliced alike. -/
theorem slice_congr {t u : SlicedText} (same : t.marks = u.marks)
    (spacing : t.preserveSpacing = u.preserveSpacing) (count : Option Nat) (fallback : Char) :
    t.slice count fallback = u.slice count fallback := by
  have visible : t.visible = u.visible := by
    rw [← t.map_char_marks, ← u.map_char_marks, same]
  have revealed (upto : Nat) : revealedMarkup u.preserveSpacing upto t.segments =
      revealedMarkup u.preserveSpacing upto u.segments := by
    rw [revealedMarkup_eq_markup, revealedMarkup_eq_markup]
    exact congrArg (fun ms ↦ markup u.preserveSpacing false (ms.take upto)) same
  simp only [slice, length, visible, revealed, spacing]

/-- The full slice of a text reveals the markup of all its marks. -/
theorem revealed_slice_none (t : SlicedText) (fallback : Char) :
    (t.slice none fallback).revealed = markup t.preserveSpacing false t.marks := by
  have all : t.length = t.marks.length := by
    rw [length, ← t.map_char_marks, List.length_map]
  change revealedMarkup t.preserveSpacing (min t.length t.length) t.segments = _
  rw [Nat.min_self, revealedMarkup_eq_markup, all]
  exact congrArg _ List.take_length

end SlicedText

/-- Two passwords are sliced alike, whatever the spacing, the count and the cursor, exactly when
their shown characters agree in number and line feeds and in where styled runs of which class
attribute begin and go on. For texts without styled runs this is to have as many characters and line
feeds at the same places. -/
theorem alikeMasked_iff (formatted other : List Char) :
    (AlikeMasked formatted other ↔ outline formatted = outline other) ∧
      (IsUnstyled formatted → IsUnstyled other →
        (AlikeMasked formatted other ↔
          formatted.map (· == '\n') = other.map (· == '\n'))) := by
  have alike : AlikeMasked formatted other ↔ outline formatted = outline other := by
    constructor
    · intro h
      have same := congrArg Slice.revealed (h false none '.')
      rw [SlicedText.revealed_slice_none, SlicedText.revealed_slice_none] at same
      exact eq_of_markup_eq false (isMasked_outline _) (isMasked_outline _) same
    · intro same preserveSpacing count fallback
      have same : (SlicedText.of formatted preserveSpacing true).marks =
          (SlicedText.of other preserveSpacing true).marks := same
      exact SlicedText.slice_congr same rfl count fallback
  refine ⟨alike, fun unstyled unstyled' ↦ ?_⟩
  -- the mark of a character outside of styled runs only tells whether it is a line feed
  let mark (feed : Bool) : Mark := ⟨if feed then '\n' else '*', .outside⟩
  have injective : Function.Injective mark := by
    rintro (_ | _) (_ | _) same <;> simp_all [mark]
  have marks (cs : List Char) : cs.map (fun c ↦ (⟨maskChar c, .outside⟩ : Mark)) =
      (cs.map (· == '\n')).map mark := by
    rw [List.map_map]
    refine List.map_congr_left fun c _ ↦ ?_
    by_cases feed : c = '\n' <;> simp [mark, maskChar, feed]
  rw [alike, outline_of_isUnstyled unstyled, outline_of_isUnstyled unstyled', marks, marks]
  exact (List.map_injective_iff.mpr injective).eq_iff

/-- A password without styled runs is sliced like any other one as long. -/
theorem alikeMasked_sonya :
    IsUnstyled "so\x7bya".toList ∧ IsUnstyled "kel:y".toList ∧
      AlikeMasked "so\x7bya".toList "kel:y".toList := by
  have plain (cs : List Char) (h : segments cs = [.plain cs]) : IsUnstyled cs := by
    rw [IsUnstyled, h]
    exact List.forall_mem_singleton.mpr trivial
  have first := plain "so\x7bya".toList (by decide +kernel)
  have second := plain "kel:y".toList (by decide +kernel)
  exact ⟨first, second, ((alikeMasked_iff _ _).2 first second).mpr (by decide)⟩

/-- Characters and line feeds do not settle how a password is sliced: one that reads as a styled run
shows fewer characters, and its class. -/
theorem not_alikeMasked_of_styled :
    ¬ ∀ formatted other : List Char, formatted.map (· == '\n') = other.map (· == '\n') →
      AlikeMasked formatted other := by
  intro hidden
  have same := hidden "\x7bk:cd\x7d".toList "(k:cd)".toList (by decide) false none '.'
  exact absurd same (by decide +kernel)

end Teletype.Markup
