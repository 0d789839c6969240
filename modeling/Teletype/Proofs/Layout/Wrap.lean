import Mathlib.Data.List.Forall2
import Teletype.Proofs.Layout.Width
/-!
# What wrapping keeps

Wrapping loses nothing but white space at breaks. It goes line by line, a line that fits is left as
it is, and wrapped text that is wrapped again at the same width stays as it is. A break at a space
is made as late as the columns allow, except that a space right behind them does not count: a word
that would end exactly with the columns goes to the next line when a space follows it.
-/

namespace Teletype

namespace Text

/-- The characters of a text that are not white space, in order. -/
def ink (cs : List Char) : List Char := cs.filter fun c ↦ !isBlank c

/-- The ink of texts put together is theirs, one after another. -/
theorem ink_append (cs more : List Char) : ink (cs ++ more) = ink cs ++ ink more :=
  List.filter_append cs more

/-- White space dropped at the front takes no ink away. -/
theorem ink_dropBlanks (cs : List Char) : ink (cs.dropWhile isBlank) = ink cs := by
  have dropped : ink (cs.takeWhile isBlank) = [] :=
    List.filter_eq_nil_iff.mpr fun c mem ↦ by
      simp [List.all_eq_true.mp (List.all_takeWhile (p := isBlank)) c mem]
  calc ink (cs.dropWhile isBlank)
      = ink (cs.takeWhile isBlank) ++ ink (cs.dropWhile isBlank) := by rw [dropped, List.nil_append]
    _ = ink cs := by rw [← ink_append, List.takeWhile_append_dropWhile]

/-- The ink of a text is that of its lines. -/
theorem ink_flatten_linesOf (cs : List Char) : ink (linesOf cs).flatten = ink cs := by
  have feed : isBlank '\n' = true := by decide
  rw [flatten_linesOf, ink, List.filter_filter]
  refine List.filter_congr fun c _ ↦ ?_
  by_cases same : c = '\n'
  · simp [same, feed]
  · simp [same]

end Text

namespace Layout

variable {columns : Nat} {cs line : List Char}

/-! ## What is kept -/

/-- The lines of an overlong line have its ink. -/
theorem ink_wrapRest (columns : Nat) (cs : List Char) :
    Text.ink (wrapRest columns cs).flatten = Text.ink cs := by
  induction cs using wrapRest.induct columns with
  | case1 cs short nothing =>
    rw [wrapRest, dif_pos short, if_pos nothing, List.isEmpty_iff.mp nothing]
    rfl
  | case2 cs short something =>
    rw [wrapRest, dif_pos short, if_neg something, List.flatten_singleton]
  | case3 cs long ih =>
    rw [wrapRest, dif_neg long, List.flatten_cons, Text.ink_append, ih, afterBreak,
      Text.ink_dropBlanks, ← Text.ink_append, List.take_append_drop]

/-- The lines of a line have its ink. -/
theorem ink_wrapLine (columns : Nat) (line : List Char) :
    Text.ink (wrapLine columns line).flatten = Text.ink line := by
  rw [wrapLine]
  split
  · rw [List.flatten_singleton]
  · exact ink_wrapRest columns line

/-- The lines of a text have its ink. -/
theorem ink_wrap (columns : Nat) (cs : List Char) :
    Text.ink (wrap columns cs).flatten = Text.ink cs := by
  have each (lines : List (List Char)) :
      Text.ink (lines.flatMap (wrapLine columns)).flatten = Text.ink lines.flatten := by
    induction lines with
    | nil => rfl
    | cons line lines ih =>
      rw [List.flatMap_cons, List.flatten_append, Text.ink_append, ink_wrapLine, ih,
        List.flatten_cons, Text.ink_append]
  rw [wrap, each, Text.ink_flatten_linesOf]

/-- A line that fits is its only line. -/
theorem wrapLine_of_short (short : line.length ≤ columns) : wrapLine columns line = [line] := by
  rw [wrapLine, if_pos (.inr short)]

/-- Every line has at least one line. -/
theorem wrapLine_ne_nil (columns : Nat) (line : List Char) : wrapLine columns line ≠ [] := by
  rw [wrapLine]
  split
  · simp
  · next long =>
    rw [wrapRest, dif_neg long]
    simp

/-- Every text has at least one line. -/
theorem wrap_ne_nil (columns : Nat) (cs : List Char) : wrap columns cs ≠ [] := by
  obtain ⟨rest, lines⟩ := Text.exists_linesOf cs
  rw [wrap, lines, List.flatMap_cons]
  exact fun empty ↦ wrapLine_ne_nil columns _ (List.append_eq_nil_iff.mp empty).1

/-- A text whose lines fit is wrapped into its lines. -/
theorem wrap_of_isWithin (within : Text.IsWithin columns cs) :
    wrap columns cs = Text.linesOf cs := by
  rw [wrap, List.flatMap_congr fun line mem ↦ wrapLine_of_short (within line mem)]
  exact List.flatMap_singleton' _

/-- A sentence of four words. -/
def quickFox : List Char := "the quick brown fox".toList

/-- Wrapping keeps within the columns, loses only white space, leaves each line that fits as it is,
and leaves what it gives as it is. -/
theorem wrap_loses_only_blanks (positive : 0 < columns) (cs : List Char) :
    (∀ line ∈ wrap columns cs, line.length ≤ columns) ∧
      Text.ink (wrap columns cs).flatten = Text.ink cs ∧
      (∃ parts, wrap columns cs = parts.flatten ∧
        List.Forall₂ (fun line part ↦ Text.ink part.flatten = Text.ink line ∧
          (line.length ≤ columns → part = [line])) (Text.linesOf cs) parts) ∧
      wrap columns (joinLines (wrap columns cs)) = wrap columns cs := by
  have pieces (line) (mem : line ∈ wrap columns cs) := piece_of_mem_wrap positive mem
  refine ⟨fun line mem ↦ (pieces line mem).1, ink_wrap columns cs, ?_, ?_⟩
  · refine ⟨(Text.linesOf cs).map (wrapLine columns), List.flatMap_def .., ?_⟩
    rw [List.forall₂_map_right_iff]
    exact List.forall₂_same.mpr fun line _ ↦ ⟨ink_wrapLine columns line, wrapLine_of_short⟩
  · rw [wrap_of_isWithin (isWithin_joinLines pieces)]
    exact linesOf_joinLines (wrap_ne_nil columns cs) fun line mem ↦ (pieces line mem).2

/-- At nine columns the sentence takes three lines, which have all of its letters and stay as they
are when they are wrapped again. -/
theorem wrap_quick_fox :
    0 < 9 ∧ wrap 9 quickFox = ["the".toList, "quick".toList, "brown fox".toList] ∧
      Text.ink (wrap 9 quickFox).flatten = Text.ink quickFox ∧
      wrap 9 (joinLines (wrap 9 quickFox)) = wrap 9 quickFox := by
  obtain ⟨-, inked, -, again⟩ := @wrap_loses_only_blanks 9 (by decide) quickFox
  exact ⟨by decide, by decide +kernel, inked, again⟩

/-! ## How full lines are -/

/-- The characters up to the first space. -/
def firstWord (cs : List Char) : List Char := cs.takeWhile (· ≠ ' ')

/-- Whether a line has no room left for a space and the first word of the line behind it. -/
def IsFull (columns : Nat) (line next : List Char) : Prop :=
  columns < line.length + 1 + (firstWord next).length

/-- What is left of a line behind a number of breaks. -/
def remainder (columns : Nat) : Nat → List Char → List Char
  | 0, line => line
  | breaks + 1, line => remainder columns breaks (afterBreak columns line)

/-- Whether what is left of a line is broken before its last column although a space stands right
behind the columns. -/
def BreaksEarly (columns : Nat) (rest : List Char) : Prop :=
  rest[columns]? = some ' ' ∧ breakPlace columns rest + 1 < columns

/-- Without a place of a last space there is no space. -/
theorem not_mem_of_lastSpace (none_found : lastSpace? cs = none) : ' ' ∉ cs := by
  induction cs with
  | nil => exact List.not_mem_nil
  | cons c cs ih =>
    rw [lastSpace?] at none_found
    split at none_found
    · cases none_found
    · next later =>
      split at none_found
      · cases none_found
      · next other =>
        rw [List.mem_cons, not_or]
        exact ⟨Ne.symm other, ih later⟩

/-- Behind the last space there is none. -/
theorem exists_of_lastSpace {place : Nat} (found : lastSpace? cs = some place) :
    ∃ before behind, cs = before ++ ' ' :: behind ∧ before.length = place ∧ ' ' ∉ behind := by
  induction cs generalizing place with
  | nil => cases found
  | cons c cs ih =>
    rw [lastSpace?] at found
    split at found
    · next inner later =>
      obtain rfl := Option.some.inj found
      obtain ⟨before, behind, rfl, rfl, free⟩ := ih later
      exact ⟨c :: before, behind, rfl, rfl, free⟩
    · next later =>
      split at found
      · next space =>
        obtain rfl := Option.some.inj found
        exact ⟨[], cs, by rw [space, List.nil_append], rfl, not_mem_of_lastSpace later⟩
      · cases found

/-- Characters other than spaces stand in the first word with what comes behind them. -/
theorem firstWord_append {word : List Char} (free : ' ' ∉ word) (cs : List Char) :
    firstWord (word ++ cs) = word ++ firstWord cs :=
  List.takeWhile_append_of_pos fun _ mem ↦ decide_eq_true (ne_of_mem_of_not_mem mem free)

/-- A space ends the first word. -/
theorem firstWord_append_space (cs more : List Char) :
    firstWord (cs ++ ' ' :: more) = firstWord cs := by
  induction cs with
  | nil => rfl
  | cons c cs ih =>
    by_cases space : c = ' '
    · simp [firstWord, space]
    · simpa [firstWord, space] using ih

/-- The first line of what is left of a line begins with the same word, as far as the columns
go. -/
theorem length_firstWord_of_wrapRest (positive : 0 < columns) {next : List Char}
    {later : List (List Char)} (lines : wrapRest columns cs = next :: later) :
    (firstWord next).length = min columns (firstWord cs).length := by
  by_cases short : columns = 0 ∨ cs.length ≤ columns
  · have fits : cs.length ≤ columns := short.resolve_left (Nat.ne_of_gt positive)
    have within : (firstWord cs).length ≤ cs.length := (List.takeWhile_sublist _).length_le
    rw [wrapRest, dif_pos short] at lines
    split at lines
    · cases lines
    · cases lines
      omega
  · rw [wrapRest, dif_neg short] at lines
    obtain ⟨rfl, -⟩ := List.cons.inj lines
    have whole : cs.take columns ++ cs.drop columns = cs := List.take_append_drop columns cs
    have width : (cs.take columns).length = columns := List.length_take_of_le (by omega)
    cases found : lastSpace? (cs.take columns) with
    | none =>
      have free := not_mem_of_lastSpace found
      have all : firstWord (cs.take columns) = cs.take columns := by
        simpa [firstWord] using firstWord_append free []
      have word := firstWord_append free (cs.drop columns)
      rw [whole] at word
      rw [breakPlace, found, Option.getD_none, all, word, List.length_append, width]
      omega
    | some place =>
      obtain ⟨before, behind, parts, rfl, -⟩ := exists_of_lastSpace found
      have rest : cs = before ++ ' ' :: (behind ++ cs.drop columns) := by
        rw [← List.cons_append, ← List.append_assoc, ← parts, whole]
      have piece : cs.take before.length = before := by
        rw [rest, List.take_left']
        rfl
      have word : firstWord cs = firstWord before := by rw [rest, firstWord_append_space]
      have short_word : (firstWord before).length ≤ before.length :=
        (List.takeWhile_sublist _).length_le
      have inside := congrArg List.length parts
      rw [width, List.length_append, List.length_cons] at inside
      rw [breakPlace, found, Option.getD_some, piece, word]
      omega

/-- What stands behind a number of breaks is what is left there, broken. -/
theorem drop_wrapRest {breaks : Nat} (before : breaks < (wrapRest columns cs).length) :
    (wrapRest columns cs).drop breaks = wrapRest columns (remainder columns breaks cs) := by
  induction breaks generalizing cs with
  | zero => rfl
  | succ breaks ih =>
    by_cases short : columns = 0 ∨ cs.length ≤ columns
    · have few : (wrapRest columns cs).length ≤ 1 := by
        rw [wrapRest, dif_pos short]
        split <;> simp
      omega
    · rw [wrapRest, dif_neg short] at before ⊢
      exact ih (Nat.lt_of_succ_lt_succ before)

/-- A text from which the white space in front has been dropped begins with a word, unless nothing
is left of it. -/
theorem firstWord_dropBlanks_pos (some_left : cs.dropWhile Text.isBlank ≠ []) :
    0 < (firstWord (cs.dropWhile Text.isBlank)).length := by
  induction cs with
  | nil => exact absurd rfl some_left
  | cons c cs ih =>
    rw [List.dropWhile_cons] at some_left ⊢
    split
    · next blank =>
      rw [if_pos blank] at some_left
      exact ih some_left
    · next solid =>
      have other : c ≠ ' ' := by
        rintro rfl
        exact solid (by decide)
      simp [firstWord, other]

/-- What is left behind a break at a space: characters other than spaces up to the columns with what
follows them. Where there are none, white space is dropped from what follows. -/
theorem afterBreak_of_space {before behind more : List Char} (free : ' ' ∉ behind)
    (plain : ∀ c ∈ behind, Text.isBlank c = true → c = ' ')
    (place : breakPlace columns (before ++ ' ' :: (behind ++ more)) = before.length) :
    afterBreak columns (before ++ ' ' :: (behind ++ more)) =
      if behind = [] then more.dropWhile Text.isBlank else behind ++ more := by
  have space : Text.isBlank ' ' = true := by decide
  rw [afterBreak, place, List.drop_left', List.dropWhile_cons, if_pos space]
  · cases behind with
    | nil => rfl
    | cons d behind =>
      have solid : ¬ Text.isBlank d = true := fun blank ↦
        free (plain d List.mem_cons_self blank ▸ List.mem_cons_self)
      rw [List.cons_append, List.dropWhile_cons, if_neg solid, if_neg (List.cons_ne_nil _ _)]
  · rfl

/-- Where a line is broken, the line behind the break begins with a word that would have fitted at
most exactly, and that only where the break is early. -/
theorem isFull_iff_of_wrapRest (positive : 0 < columns)
    (plain : ∀ c ∈ cs, Text.isBlank c = true → c = ' ') {line next : List Char}
    {later : List (List Char)} (lines : wrapRest columns cs = line :: next :: later) :
    columns ≤ line.length + 1 + (firstWord next).length ∧
      (IsFull columns line next ↔ ¬ BreaksEarly columns cs) := by
  have long : ¬ (columns = 0 ∨ cs.length ≤ columns) := by
    intro short
    rw [wrapRest, dif_pos short] at lines
    split at lines <;> cases lines
  rw [wrapRest, dif_neg long] at lines
  obtain ⟨rfl, behind_break⟩ := List.cons.inj lines
  have word := length_firstWord_of_wrapRest positive behind_break
  have overlong : columns < cs.length := by omega
  obtain ⟨front, c, tail, rfl, rfl⟩ : ∃ front c tail, cs = front ++ c :: tail ∧
      columns = front.length := by
    refine ⟨cs.take columns, cs[columns], cs.drop (columns + 1), ?_, ?_⟩
    · rw [List.getElem_cons_drop, List.take_append_drop]
    · exact (List.length_take_of_le (by omega)).symm
  have right_behind : (front ++ c :: tail)[front.length]? = some c := by simp
  have front_eq : (front ++ c :: tail).take front.length = front := List.take_left
  cases found : lastSpace? front with
  | none =>
    -- a word as long as the columns is cut
    have cut : breakPlace front.length (front ++ c :: tail) = front.length := by
      rw [breakPlace, front_eq, found, Option.getD_none]
    rw [cut, front_eq, IsFull, BreaksEarly, cut]
    omega
  | some place =>
    obtain ⟨before, behind, rfl, rfl, free⟩ := exists_of_lastSpace found
    generalize width : (before ++ ' ' :: behind).length = columns at *
    have columns_eq : columns = before.length + (behind.length + 1) := by
      rw [← width, List.length_append, List.length_cons]
    rw [List.append_assoc, List.cons_append] at front_eq word behind_break plain right_behind ⊢
    have cut : breakPlace columns (before ++ ' ' :: (behind ++ c :: tail)) = before.length := by
      rw [breakPlace, front_eq, found, Option.getD_some]
    have left := afterBreak_of_space free (fun d mem ↦ plain d (by simp [mem])) cut
    rw [left] at word behind_break
    rw [IsFull, BreaksEarly, cut, List.take_left, right_behind, Option.some.injEq]
    by_cases last_column : behind = []
    · -- the break is at the last column, so that any word is too long
      rw [if_pos last_column] at word behind_break
      subst last_column
      have some_word : 0 < (firstWord ((c :: tail).dropWhile Text.isBlank)).length := by
        refine firstWord_dropBlanks_pos fun empty ↦ ?_
        rw [empty, wrapRest, dif_pos (.inr (Nat.zero_le _))] at behind_break
        cases behind_break
      rw [List.length_nil] at columns_eq
      omega
    · -- the next word goes up to the columns, and further unless a space stands there
      rw [if_neg last_column, firstWord_append free, List.length_append] at word
      have some_behind : 0 < behind.length := List.length_pos_of_ne_nil last_column
      by_cases space : c = ' '
      · have ends : (firstWord (c :: tail)).length = 0 := by simp [firstWord, space]
        simp only [space, true_and]
        omega
      · have goes_on : 0 < (firstWord (c :: tail)).length := by simp [firstWord, space]
        simp only [space, false_and, not_false_eq_true, iff_true]
        omega

/-- The lines of a line that is broken are what its breaks leave. -/
theorem exists_wrapRest_of_getElem? {breaks : Nat} {next : List Char}
    (here : (wrapLine columns cs)[breaks]? = some line)
    (there : (wrapLine columns cs)[breaks + 1]? = some next) :
    ∃ later, wrapRest columns (remainder columns breaks cs) = line :: next :: later := by
  have broken : wrapLine columns cs = wrapRest columns cs := by
    rw [wrapLine] at there ⊢
    split
    · next short =>
      rw [if_pos short] at there
      simp at there
    · rfl
  rw [broken] at here there
  obtain ⟨before, rfl⟩ := List.getElem?_eq_some_iff.mp here
  obtain ⟨before_next, rfl⟩ := List.getElem?_eq_some_iff.mp there
  refine ⟨(wrapRest columns cs).drop (breaks + 2), ?_⟩
  rw [← drop_wrapRest before, List.drop_eq_getElem_cons before,
    List.drop_eq_getElem_cons before_next]

/-- What breaks leave of a line is a part of it. -/
theorem remainder_suffix (columns breaks : Nat) (line : List Char) :
    remainder columns breaks line <:+ line := by
  induction breaks generalizing line with
  | zero => exact List.suffix_rfl
  | succ breaks ih =>
    exact (ih (afterBreak columns line)).trans
      ((List.dropWhile_suffix _).trans (List.drop_suffix _ line))

/-- Where a line of a text with no other white space than spaces and line feeds is broken, the first
word of the next line would have fitted at most exactly, and it would not have fitted unless the
break is early: a space stands right behind the columns and the break is not at the last of them. -/
theorem isFull_iff_not_breaksEarly (positive : 0 < columns)
    (plain : ∀ c ∈ cs, Text.isBlank c = true → c = ' ' ∨ c = '\n') :
    ∀ whole ∈ Text.linesOf cs, ∀ (breaks : Nat) (line next : List Char),
      (wrapLine columns whole)[breaks]? = some line →
      (wrapLine columns whole)[breaks + 1]? = some next →
        columns ≤ line.length + 1 + (firstWord next).length ∧
          (IsFull columns line next ↔ ¬ BreaksEarly columns (remainder columns breaks whole)) := by
  intro whole mem breaks line next here there
  obtain ⟨later, lines⟩ := exists_wrapRest_of_getElem? here there
  refine isFull_iff_of_wrapRest positive (fun c inside blank ↦ ?_) lines
  have in_line : c ∈ whole := (remainder_suffix columns breaks whole).subset inside
  have in_text : c ∈ cs := (Text.isInfix_of_mem_linesOf mem).subset in_line
  have no_feed : c ≠ '\n' := ne_of_mem_of_not_mem in_line (Text.not_mem_of_mem_linesOf mem)
  exact (plain c in_text blank).resolve_right no_feed

private theorem plain_quickFox : ∀ c ∈ quickFox, Text.isBlank c = true → c = ' ' ∨ c = '\n' := by
  have all : quickFox.all (fun c ↦ !Text.isBlank c || (c == ' ' || c == '\n')) = true := by
    decide +kernel
  intro c mem blank
  simpa [blank] using List.all_eq_true.mp all c mem

/-- At ten columns the third word of the sentence begins the second line and would not have fitted
on the first one. -/
theorem isFull_the_quick :
    (∀ c ∈ quickFox, Text.isBlank c = true → c = ' ' ∨ c = '\n') ∧
      wrap 10 quickFox = ["the quick".toList, "brown fox".toList] ∧
      ¬ BreaksEarly 10 (remainder 10 0 quickFox) ∧
      IsFull 10 "the quick".toList "brown fox".toList := by
  have late : ¬ BreaksEarly 10 (remainder 10 0 quickFox) := by
    simp only [BreaksEarly]
    decide +kernel
  have full := @isFull_iff_not_breaksEarly 10 quickFox (by decide) plain_quickFox quickFox
    (by decide +kernel) 0 "the quick".toList "brown fox".toList (by decide +kernel)
    (by decide +kernel)
  exact ⟨plain_quickFox, by decide +kernel, late, full.2.mpr late⟩

/-- At nine columns the sentence is broken at the first space, although the second word would have
fitted on the first line. -/
theorem not_isFull_the :
    (∀ c ∈ quickFox, Text.isBlank c = true → c = ' ' ∨ c = '\n') ∧
      quickFox ∈ Text.linesOf quickFox ∧ breakPlace 9 quickFox = 3 ∧ quickFox[3]? = some ' ' ∧
      (wrapLine 9 quickFox)[0]? = some "the".toList ∧
      (wrapLine 9 quickFox)[1]? = some "quick".toList ∧
      ¬ IsFull 9 "the".toList "quick".toList := by
  refine ⟨plain_quickFox, ?_⟩
  simp only [IsFull]
  decide +kernel

end Layout

end Teletype
