import Mathlib.Data.List.Chain
import Mathlib.Data.List.Forall2
import Teletype.Markup.Segment
import Teletype.Proofs.Text.Trim
/-!
# What text is read as

A text is read from left to right. An opening brace is closed by the next closing brace; what stands
between them is a styled run or stays plain, and what stands behind them is read by itself. The
segments of a text are the only list that this rule allows. They are the text again when they are
written, except for blanks around class names, and they are read again as they are.
-/

namespace Teletype.Markup

open Text

variable {before cs lead inside behind rest name text : List Char} {run : Segment}
  {segs : List Segment}

/-! ## Class names and styled runs -/

/-- The name of a class: some text without white space around it and without a character that could
end the attribute or the tag it is written in. -/
structure IsClass (name : List Char) : Prop where
  nonempty : name ≠ []
  trimmed : IsTrimmed name
  safe : ∀ c ∈ name, c ∉ ['"', '\'', '<', '>']

/-- A class name is what the test for class names accepts, once it is trimmed. -/
theorem isClassName_iff (trimmed : IsTrimmed name) : isClassName name = true ↔ IsClass name := by
  have accepted : isClassName name = true ↔ name ≠ [] ∧ ∀ c ∈ name, c ∉ ['"', '\'', '<', '>'] := by
    simp [isClassName, isUnsafeInClass, and_assoc]
  rw [accepted]
  exact ⟨fun h ↦ ⟨h.1, trimmed, h.2⟩, fun h ↦ ⟨h.nonempty, h.safe⟩⟩

/-- Blanks are no colons. -/
private theorem colon_not_mem {blanks : List Char} (blank : IsBlank blanks) : ':' ∉ blanks :=
  fun colon ↦ absurd (blank ':' colon) (by decide)

/-- Between two braces a styled run is a class name with blanks around it, and its text behind a
colon. -/
theorem styledRun?_eq_some_iff :
    styledRun? inside = some run ↔
      ∃ left name right text, IsBlank left ∧ IsBlank right ∧ IsClass name ∧ ':' ∉ name ∧
        inside = left ++ (name ++ right) ++ ':' :: text ∧
        run = .styled (String.ofList name) text := by
  constructor
  · intro h
    unfold styledRun? at h
    cases split : splitAtFirst ':' inside with
    | none => simp [split] at h
    | some parts =>
      obtain ⟨written, text⟩ := parts
      simp only [split, Option.bind_eq_bind, Option.bind_some] at h
      obtain ⟨free, rfl⟩ := splitAtFirst_eq_some_iff.mp split
      obtain ⟨trimmed, left, right, blankLeft, blankRight, parts⟩ := trimChars_eq_iff.mp
        (rfl : trimChars written = trimChars written)
      split at h
      · next accepted =>
        obtain rfl := Option.some.inj h
        refine ⟨left, trimChars written, right, text, blankLeft, blankRight,
          (isClassName_iff trimmed).mp accepted, fun colon ↦ free ?_, by rw [← parts], rfl⟩
        rw [parts]
        exact List.mem_append_right _ (List.mem_append_left _ colon)
      · cases h
  · rintro ⟨left, name, right, text, blankLeft, blankRight, isClass, free, rfl, rfl⟩
    have unsplit : ':' ∉ left ++ (name ++ right) := by
      rw [List.mem_append, List.mem_append, not_or, not_or]
      exact ⟨colon_not_mem blankLeft, free, colon_not_mem blankRight⟩
    have split := splitAtFirst_append unsplit text
    have trimmed : trimChars (left ++ (name ++ right)) = name :=
      trimChars_eq_iff.mpr ⟨isClass.trimmed, left, right, blankLeft, blankRight, rfl⟩
    have accepted := (isClassName_iff isClass.trimmed).mpr isClass
    simp only [styledRun?, split, Option.bind_eq_bind, Option.bind_some, trimmed, if_pos accepted]

/-! ## The steps of reading -/

/-- Without an opening brace all is plain. -/
theorem segmentsFrom_of_unopened (free : '\x7b' ∉ cs) :
    segmentsFrom before cs = plainRun (before ++ cs) := by
  have unopened := splitAtFirst_eq_none_iff.mpr free
  rw [segmentsFrom]
  split <;> simp_all

/-- Behind an opening brace that is never closed all is plain. -/
theorem segmentsFrom_of_unclosed (free : '\x7b' ∉ lead) (unclosed : '\x7d' ∉ behind) :
    segmentsFrom before (lead ++ '\x7b' :: behind) =
      plainRun (before ++ (lead ++ '\x7b' :: behind)) := by
  have opened := splitAtFirst_append free behind
  have none := splitAtFirst_eq_none_iff.mpr unclosed
  rw [segmentsFrom]
  split
  · simp_all
  · split <;> simp_all

/-- A brace that is closed ends the plain text before it if a styled run stands behind it, and
otherwise belongs to the plain text. -/
theorem segmentsFrom_of_closed (free : '\x7b' ∉ lead) (closed : '\x7d' ∉ inside) :
    segmentsFrom before (lead ++ '\x7b' :: (inside ++ '\x7d' :: rest)) =
      match styledRun? inside with
      | some run => plainRun (before ++ lead) ++ run :: segmentsFrom [] rest
      | none => segmentsFrom (before ++ (lead ++ '\x7b' :: (inside ++ ['\x7d']))) rest := by
  have opened := splitAtFirst_append free (inside ++ '\x7d' :: rest)
  have ended := splitAtFirst_append closed rest
  rw [segmentsFrom]
  split
  · next unopened => cases opened.symm.trans unopened
  · next reopened =>
    obtain ⟨rfl, rfl⟩ := Prod.mk.inj (Option.some.inj (opened.symm.trans reopened))
    split
    · next unended => cases ended.symm.trans unended
    · next ended' =>
      obtain ⟨rfl, rfl⟩ := Prod.mk.inj (Option.some.inj (ended.symm.trans ended'))
      cases styledRun? inside with
      | some run => rfl
      | none => simp only [List.append_assoc, List.cons_append]

/-- A pair of braces with a styled run between them ends the plain text before it. -/
theorem segmentsFrom_of_styled (free : '\x7b' ∉ lead) (closed : '\x7d' ∉ inside)
    (styled : styledRun? inside = some run) :
    segmentsFrom before (lead ++ '\x7b' :: (inside ++ '\x7d' :: rest)) =
      plainRun (before ++ lead) ++ run :: segmentsFrom [] rest := by
  rw [segmentsFrom_of_closed free closed, styled]

/-- A pair of braces without a styled run between them belongs to the plain text. -/
theorem segmentsFrom_of_unstyled (free : '\x7b' ∉ lead) (closed : '\x7d' ∉ inside)
    (unstyled : styledRun? inside = none) :
    segmentsFrom before (lead ++ '\x7b' :: (inside ++ '\x7d' :: rest)) =
      segmentsFrom (before ++ (lead ++ '\x7b' :: (inside ++ ['\x7d']))) rest := by
  rw [segmentsFrom_of_closed free closed, unstyled]

/-! ## What may be read -/

/-- Plain text that leaves no brace open: each one that it opens is closed by the next closing
brace, and no styled run stands between the two. -/
inductive IsClosed : List Char → Prop
  | free {cs : List Char} (unopened : '\x7b' ∉ cs) : IsClosed cs
  | pair {lead inside rest : List Char} (free : '\x7b' ∉ lead) (ended : '\x7d' ∉ inside)
    (unstyled : styledRun? inside = none) (others : IsClosed rest) :
    IsClosed (lead ++ '\x7b' :: (inside ++ '\x7d' :: rest))

/-- The segments that a text is read as: plain text that leaves no brace open, up to a styled run or
to the end or to a brace that nothing closes. -/
inductive Reads : List Char → List Segment → Prop
  | plain {cs : List Char} (closed : IsClosed cs) : Reads cs (plainRun cs)
  | unclosed {lead behind : List Char} (closed : IsClosed lead) (unended : '\x7d' ∉ behind) :
    Reads (lead ++ '\x7b' :: behind) (plainRun (lead ++ '\x7b' :: behind))
  | styled {lead inside rest : List Char} {run : Segment} {segs : List Segment}
    (closed : IsClosed lead) (ended : '\x7d' ∉ inside) (styled : styledRun? inside = some run)
    (others : Reads rest segs) :
    Reads (lead ++ '\x7b' :: (inside ++ '\x7d' :: rest)) (plainRun lead ++ run :: segs)

/-- Texts that leave no brace open leave none open one after another. -/
theorem IsClosed.append (h : IsClosed lead) (others : IsClosed rest) : IsClosed (lead ++ rest) := by
  induction h with
  | free unopened =>
    cases others with
    | free none => exact .free fun mem ↦ (List.mem_append.mp mem).elim unopened none
    | pair free ended unstyled others =>
      rw [← List.append_assoc]
      exact .pair (fun mem ↦ (List.mem_append.mp mem).elim unopened free) ended unstyled others
  | pair free ended unstyled _ ih =>
    rw [List.append_assoc, List.cons_append, List.append_assoc, List.cons_append]
    exact .pair free ended unstyled ih

/-- A text is read as its segments. -/
theorem reads_segmentsFrom (closed : IsClosed before) :
    Reads (before ++ cs) (segmentsFrom before cs) := by
  fun_induction segmentsFrom before cs with
  | case1 before cs unopened =>
    exact .plain (closed.append (.free (splitAtFirst_eq_none_iff.mp unopened)))
  | case2 before cs lead behind opened unended =>
    obtain ⟨free, rfl⟩ := splitAtFirst_eq_some_iff.mp opened
    rw [← List.append_assoc]
    exact .unclosed (closed.append (.free free)) (splitAtFirst_eq_none_iff.mp unended)
  | case3 before cs lead behind opened inside rest ended run styled ih =>
    obtain ⟨free, rfl⟩ := splitAtFirst_eq_some_iff.mp opened
    obtain ⟨unended, rfl⟩ := splitAtFirst_eq_some_iff.mp ended
    rw [← List.append_assoc]
    exact .styled (closed.append (.free free)) unended styled (ih (.free List.not_mem_nil))
  | case4 before cs lead behind opened inside rest ended unstyled ih =>
    obtain ⟨free, rfl⟩ := splitAtFirst_eq_some_iff.mp opened
    obtain ⟨unended, rfl⟩ := splitAtFirst_eq_some_iff.mp ended
    have pair : IsClosed (lead ++ '\x7b' :: (inside ++ ['\x7d'])) :=
      .pair free unended unstyled (.free List.not_mem_nil)
    have others := ih (by simpa using closed.append pair)
    simpa using others

/-- Plain text without an opening brace may be read before the rest. -/
private theorem segmentsFrom_append_of_free (free : '\x7b' ∉ lead) (before cs : List Char) :
    segmentsFrom before (lead ++ cs) = segmentsFrom (before ++ lead) cs := by
  have join {more : List Char} (none : '\x7b' ∉ more) : '\x7b' ∉ lead ++ more := fun mem ↦
    (List.mem_append.mp mem).elim free none
  cases opened : splitAtFirst '\x7b' cs with
  | none =>
    have none := splitAtFirst_eq_none_iff.mp opened
    rw [segmentsFrom_of_unopened (join none), segmentsFrom_of_unopened none, List.append_assoc]
  | some parts =>
    obtain ⟨more, behind⟩ := parts
    obtain ⟨none, rfl⟩ := splitAtFirst_eq_some_iff.mp opened
    rw [← List.append_assoc]
    cases ended : splitAtFirst '\x7d' behind with
    | none =>
      have unended := splitAtFirst_eq_none_iff.mp ended
      rw [segmentsFrom_of_unclosed (join none) unended, segmentsFrom_of_unclosed none unended]
      simp only [List.append_assoc]
    | some parts =>
      obtain ⟨inside, rest⟩ := parts
      obtain ⟨closed, rfl⟩ := splitAtFirst_eq_some_iff.mp ended
      rw [segmentsFrom_of_closed (join none) closed, segmentsFrom_of_closed none closed]
      simp only [List.append_assoc]

/-- Plain text that leaves no brace open may be read before the rest. -/
theorem segmentsFrom_append (closed : IsClosed lead) (before cs : List Char) :
    segmentsFrom before (lead ++ cs) = segmentsFrom (before ++ lead) cs := by
  induction closed generalizing before with
  | free unopened => exact segmentsFrom_append_of_free unopened before cs
  | pair free ended unstyled _ ih =>
    rw [List.append_assoc, List.cons_append, List.append_assoc, List.cons_append,
      segmentsFrom_of_unstyled free ended unstyled, ih]
    simp only [List.append_assoc, List.cons_append, List.nil_append]

/-- A text may be read in one way only. -/
theorem segments_of_reads (h : Reads cs segs) : segments cs = segs := by
  unfold segments
  induction h with
  | @plain cs closed =>
    have all := segmentsFrom_append closed [] []
    rw [List.append_nil, List.nil_append, segmentsFrom_of_unopened List.not_mem_nil,
      List.append_nil] at all
    exact all
  | @unclosed lead behind closed unended =>
    have none : segmentsFrom lead ([] ++ '\x7b' :: behind) = plainRun (lead ++ '\x7b' :: behind) :=
      segmentsFrom_of_unclosed List.not_mem_nil unended
    rwa [segmentsFrom_append closed]
  | @styled lead inside rest run segs closed ended styled _ ih =>
    have first : segmentsFrom lead ([] ++ '\x7b' :: (inside ++ '\x7d' :: rest)) =
        plainRun (lead ++ []) ++ run :: segmentsFrom [] rest :=
      segmentsFrom_of_styled List.not_mem_nil ended styled
    rw [List.append_nil, ih] at first
    rwa [segmentsFrom_append closed]

/-- The segments of a text are what it is read as. -/
theorem segments_eq_iff : segments cs = segs ↔ Reads cs segs :=
  ⟨fun h ↦ h ▸ reads_segmentsFrom (.free List.not_mem_nil), segments_of_reads⟩

/-! ## Written segments -/

namespace Segment

/-- A segment that is shown without a class. -/
def IsPlain : Segment → Prop
  | plain _ => True
  | styled .. => False

/-- What a segment of a text holds: some plain characters, or a class name and characters up to a
closing brace. -/
def IsProper : Segment → Prop
  | plain text => text ≠ []
  | styled className text => IsClass className.toList ∧ '\x7d' ∉ text

/-- A segment as it is written with blanks around its class name. -/
def spaced (left right : List Char) : Segment → List Char
  | plain text => text
  | styled className text => '\x7b' :: left ++ className.toList ++ right ++ ':' :: text ++ ['\x7d']

/-- A segment is written without blanks around its class name. -/
theorem written_eq_spaced (segment : Segment) : segment.written = segment.spaced [] [] := by
  cases segment with
  | plain text => rfl
  | styled className text => simp [written, spaced]

/-- A text is a segment as it is written, but for blanks around the class name. -/
def IsSpelled (segment : Segment) (part : List Char) : Prop :=
  ∃ left right, IsBlank left ∧ IsBlank right ∧ part = segment.spaced left right

/-- One of two segments has a class. -/
def Differs (first second : Segment) : Prop := ¬ (first.IsPlain ∧ second.IsPlain)

end Segment

/-- A styled run is not plain. -/
theorem not_isPlain_of_styledRun (styled : styledRun? inside = some run) : ¬ run.IsPlain := by
  obtain ⟨-, -, -, -, -, -, -, -, -, rfl⟩ := styledRun?_eq_some_iff.mp styled
  exact id

/-- A styled run is proper where the first closing brace ends it. -/
theorem isProper_of_styledRun (styled : styledRun? inside = some run) (ended : '\x7d' ∉ inside) :
    run.IsProper := by
  obtain ⟨left, name, right, text, -, -, isClass, -, rfl, rfl⟩ := styledRun?_eq_some_iff.mp styled
  refine ⟨by rwa [String.toList_ofList], fun brace ↦ ended ?_⟩
  exact List.mem_append_right _ (List.mem_cons_of_mem _ brace)

/-- A styled run is what stands in its pair of braces. -/
theorem isSpelled_of_styledRun (styled : styledRun? inside = some run) :
    run.IsSpelled ('\x7b' :: (inside ++ ['\x7d'])) := by
  obtain ⟨left, name, right, text, blankLeft, blankRight, -, -, rfl, rfl⟩ :=
    styledRun?_eq_some_iff.mp styled
  exact ⟨left, right, blankLeft, blankRight, by simp [Segment.spaced]⟩

/-- A styled run without the blanks around its class name is the same run. -/
theorem exists_of_written (styled : styledRun? inside = some run) (ended : '\x7d' ∉ inside) :
    ∃ tidy, run.written = '\x7b' :: (tidy ++ ['\x7d']) ∧ '\x7d' ∉ tidy ∧
      styledRun? tidy = some run := by
  obtain ⟨left, name, right, text, -, -, isClass, free, rfl, rfl⟩ :=
    styledRun?_eq_some_iff.mp styled
  refine ⟨name ++ ':' :: text, by simp [Segment.written_eq_spaced, Segment.spaced],
    fun brace ↦ ended ?_, ?_⟩
  · simp only [List.mem_append] at brace ⊢
    tauto
  · exact styledRun?_eq_some_iff.mpr
      ⟨[], name, [], text, isBlank_nil, isBlank_nil, isClass, free, by simp, rfl⟩

/-- Plain characters are a proper segment, unless there are none. -/
theorem isProper_plainRun (cs : List Char) : ∀ segment ∈ plainRun cs, segment.IsProper := by
  cases cs with
  | nil => exact List.forall_mem_nil _
  | cons c cs => exact List.forall_mem_singleton.mpr (List.cons_ne_nil c cs)

/-- Plain characters are at most one segment. -/
theorem isChain_plainRun (cs : List Char) : (plainRun cs).IsChain Segment.Differs := by
  cases cs with
  | nil => exact .nil
  | cons c cs => exact .singleton _

/-- Plain characters are what their segment spells. -/
theorem exists_parts_plainRun (cs : List Char) :
    ∃ parts, cs = parts.flatten ∧ List.Forall₂ Segment.IsSpelled (plainRun cs) parts := by
  cases cs with
  | nil => exact ⟨[], rfl, .nil⟩
  | cons c cs =>
    have spelled : (Segment.plain (c :: cs)).IsSpelled (c :: cs) :=
      ⟨[], [], isBlank_nil, isBlank_nil, rfl⟩
    exact ⟨[c :: cs], by simp, .cons spelled .nil⟩

/-- Plain characters are written as they are. -/
theorem written_plainRun (cs : List Char) : (plainRun cs).flatMap Segment.written = cs := by
  cases cs with
  | nil => rfl
  | cons c cs => exact List.append_nil _

namespace Reads

/-- The segments that a text is read as are proper. -/
theorem isProper (h : Reads cs segs) : ∀ segment ∈ segs, segment.IsProper := by
  induction h with
  | plain | unclosed => exact isProper_plainRun _
  | styled _ ended styled _ ih =>
    rw [List.forall_mem_append, List.forall_mem_cons]
    exact ⟨isProper_plainRun _, isProper_of_styledRun styled ended, ih⟩

/-- No two plain segments stand next to each other. -/
theorem isChain (h : Reads cs segs) : segs.IsChain Segment.Differs := by
  induction h with
  | plain | unclosed => exact isChain_plainRun _
  | styled _ _ styled _ ih =>
    have unplain := not_isPlain_of_styledRun styled
    refine List.isChain_append.mpr ⟨isChain_plainRun _, ?_, fun _ _ second mem both ↦ ?_⟩
    · exact List.isChain_cons.mpr ⟨fun _ _ both ↦ unplain both.1, ih⟩
    · obtain rfl := Option.some.inj mem
      exact unplain both.2

/-- A text is what its segments spell. -/
theorem exists_parts (h : Reads cs segs) :
    ∃ parts, cs = parts.flatten ∧ List.Forall₂ Segment.IsSpelled segs parts := by
  induction h with
  | plain | unclosed => exact exists_parts_plainRun _
  | @styled lead inside rest run segs _ _ styled _ ih =>
    obtain ⟨before, whole, spelled⟩ := exists_parts_plainRun lead
    obtain ⟨parts, rfl, others⟩ := ih
    refine ⟨before ++ ('\x7b' :: (inside ++ ['\x7d'])) :: parts, ?_, ?_⟩
    · rw [whole]
      simp
    · exact List.rel_append spelled (.cons (isSpelled_of_styledRun styled) others)

/-- Segments are read again when they are written. -/
theorem written (h : Reads cs segs) : Reads (segs.flatMap Segment.written) segs := by
  induction h with
  | plain closed =>
    rw [written_plainRun]
    exact .plain closed
  | unclosed closed unended =>
    rw [written_plainRun]
    exact .unclosed closed unended
  | styled closed ended styled _ ih =>
    obtain ⟨tidy, written, tidyEnded, tidyStyled⟩ := exists_of_written styled ended
    rw [List.flatMap_append, written_plainRun, List.flatMap_cons, written, List.cons_append,
      List.append_assoc, List.cons_append, List.nil_append]
    exact .styled closed tidyEnded tidyStyled ih

end Reads

/-- The segments of a text are the only ones that it may be read as. They are proper, no two plain
ones stand next to each other, the text is what they spell, with blanks around class names at most,
and without such blanks they are read as the same segments. -/
theorem segments_canonical (cs : List Char) :
    (∀ segs, segments cs = segs ↔ Reads cs segs) ∧
      (∀ segment ∈ segments cs, segment.IsProper) ∧
      (segments cs).IsChain Segment.Differs ∧
      (∃ parts, cs = parts.flatten ∧ List.Forall₂ Segment.IsSpelled (segments cs) parts) ∧
      segments ((segments cs).flatMap Segment.written) = segments cs := by
  have reads : Reads cs (segments cs) := segments_eq_iff.mp rfl
  exact ⟨fun _ ↦ segments_eq_iff, reads.isProper, reads.isChain, reads.exists_parts,
    segments_eq_iff.mpr reads.written⟩

/-- A text with a styled run between two pairs of braces that are none. -/
def hotKey : List Char := "any \x7bkey\x7d, \x7b hot key :now\x7d, \x7b<b>:later\x7d".toList

/-- The styled run has a class of two words, and when the blanks around it are gone the text is read
as before. -/
theorem hotKey_read_again :
    let run := Segment.styled "hot key" "now".toList
    let tidy := "any \x7bkey\x7d, \x7bhot key:now\x7d, \x7b<b>:later\x7d".toList
    segments hotKey =
        [.plain "any \x7bkey\x7d, ".toList, run, .plain ", \x7b<b>:later\x7d".toList] ∧
      run ∈ segments hotKey ∧ run.IsProper ∧
      (segments hotKey).flatMap Segment.written = tidy ∧ segments tidy = segments hotKey := by
  intro run tidy
  have run_mem : run ∈ segments hotKey := by decide +kernel
  have written : (segments hotKey).flatMap Segment.written = tidy := by decide +kernel
  obtain ⟨-, proper, -, -, again⟩ := segments_canonical hotKey
  exact ⟨by decide +kernel, run_mem, proper run run_mem, written, written ▸ again⟩

end Teletype.Markup
