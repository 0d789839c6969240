import Teletype.Text.Blank
/-!
# Breaking lines

Text is broken into lines of at most a given number of characters, at a space where there is one.
Lines that fit are left alone; blanks at a break belong to neither line.
-/

namespace Teletype.Layout

/-- The place of the last space in a list of characters. -/
def lastSpace? : List Char → Option Nat
  | [] => none
  | c :: cs =>
    match lastSpace? cs with
    | some place => some (place + 1)
    | none => if c = ' ' then some 0 else none

/-- Where an overlong line is broken: at the last space that fits, or else after the last character
that fits. -/
def breakPlace (columns : Nat) (cs : List Char) : Nat :=
  (lastSpace? (cs.take columns)).getD columns

/-- The character at the last space is a space. -/
theorem getElem?_of_lastSpace {cs : List Char} {place : Nat} (h : lastSpace? cs = some place) :
    cs[place]? = some ' ' := by
  induction cs generalizing place with
  | nil => simp [lastSpace?] at h
  | cons c cs ih =>
    rw [lastSpace?] at h
    split at h
    · obtain rfl := Option.some.inj h
      simpa using ih (by assumption)
    · split at h
      · obtain rfl := Option.some.inj h
        simp_all
      · simp at h

/-- What is left of an overlong line behind a break. -/
def afterBreak (columns : Nat) (cs : List Char) : List Char :=
  (cs.drop (breakPlace columns cs)).dropWhile Text.isBlank

/-- Dropping from the front of a list never makes it longer. -/
private theorem length_dropWhile_le (p : Char → Bool) (cs : List Char) :
    (cs.dropWhile p).length ≤ cs.length := by
  induction cs with
  | nil => simp
  | cons c cs ih =>
    rw [List.dropWhile_cons]
    split
    · exact Nat.le_succ_of_le ih
    · exact Nat.le_refl _

/-- Every break takes at least one character off an overlong line. -/
theorem length_afterBreak {columns : Nat} {cs : List Char} (hc : columns ≠ 0)
    (hl : columns < cs.length) : (afterBreak columns cs).length < cs.length := by
  rw [afterBreak]
  by_cases hb : breakPlace columns cs = 0
  · have hs : lastSpace? (cs.take columns) = some 0 := by
      rw [breakPlace] at hb
      cases h : lastSpace? (cs.take columns) with
      | none => simp [h, hc] at hb
      | some place => simpa [h] using hb
    have h0 := getElem?_of_lastSpace hs
    cases cs with
    | nil => simp at hl
    | cons c cs =>
      cases columns with
      | zero => exact absurd rfl hc
      | succ columns =>
        simp only [List.take_succ_cons, List.getElem?_cons_zero, Option.some.injEq] at h0
        subst h0
        rw [hb, List.drop_zero, List.dropWhile_cons, if_pos (by decide)]
        exact Nat.lt_succ_of_le (length_dropWhile_le _ _)
  · refine Nat.lt_of_le_of_lt (length_dropWhile_le _ _) ?_
    rw [List.length_drop]
    omega

/-- The lines of what remains of an overlong line; nothing gives no line. -/
def wrapRest (columns : Nat) (cs : List Char) : List (List Char) :=
  if _h : columns = 0 ∨ cs.length ≤ columns then
    if cs.isEmpty then [] else [cs]
  else
    cs.take (breakPlace columns cs) :: wrapRest columns (afterBreak columns cs)
termination_by cs.length
decreasing_by exact length_afterBreak (by omega) (by omega)

/-- The lines of one line. Without any columns it is left as it is. -/
def wrapLine (columns : Nat) (cs : List Char) : List (List Char) :=
  if columns = 0 ∨ cs.length ≤ columns then [cs] else wrapRest columns cs

/-- The lines of a text, broken at line feeds and then by length. -/
def wrap (columns : Nat) (cs : List Char) : List (List Char) :=
  (Text.linesOf cs).flatMap (wrapLine columns)

end Teletype.Layout
