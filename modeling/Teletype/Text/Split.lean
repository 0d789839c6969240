/-!
# Splitting

Cutting a list of characters at the first occurrence of a character, or where a run of characters of
one class ends.
-/

namespace Teletype.Text

/-- Splits at the first occurrence of a character, which is dropped. -/
def splitAtFirst (c : Char) : List Char → Option (List Char × List Char)
  | [] => none
  | d :: rest =>
    if d = c then some ([], rest)
    else (splitAtFirst c rest).map fun (before, after) ↦ (d :: before, after)

/-- The two parts of a split and the character between them are the whole. -/
theorem eq_of_splitAtFirst {c : Char} {cs before after : List Char}
    (h : splitAtFirst c cs = some (before, after)) : cs = before ++ c :: after := by
  induction cs generalizing before with
  | nil => simp [splitAtFirst] at h
  | cons d rest ih =>
    rw [splitAtFirst] at h
    split at h
    · simp_all
    · simp only [Option.map_eq_some_iff, Prod.exists, Prod.mk.injEq] at h
      obtain ⟨b, a, hb, rfl, rfl⟩ := h
      simp [ih hb]

/-- What comes before the split is all that stands before the first occurrence. -/
theorem takeWhile_of_splitAtFirst {c : Char} {cs before after : List Char}
    (h : splitAtFirst c cs = some (before, after)) : cs.takeWhile (· ≠ c) = before := by
  induction cs generalizing before with
  | nil => simp [splitAtFirst] at h
  | cons d rest ih =>
    rw [splitAtFirst] at h
    split at h
    · simp_all
    · simp only [Option.map_eq_some_iff, Prod.exists, Prod.mk.injEq] at h
      obtain ⟨b, a, hb, rfl, rfl⟩ := h
      rw [List.takeWhile_cons_of_pos (by simpa), ih hb]

/-- What follows the split is shorter than the whole. -/
theorem length_of_splitAtFirst {c : Char} {cs before after : List Char}
    (h : splitAtFirst c cs = some (before, after)) : after.length < cs.length := by
  rw [eq_of_splitAtFirst h, List.length_append, List.length_cons]
  omega

/-- There is nothing to split at where the character does not occur. -/
theorem splitAtFirst_eq_none_iff {c : Char} {cs : List Char} :
    splitAtFirst c cs = none ↔ c ∉ cs := by
  induction cs with
  | nil => simp [splitAtFirst]
  | cons d rest ih =>
    rw [splitAtFirst, List.mem_cons, not_or]
    split
    · next same => simp [same]
    · next other => simp [ih, Ne.symm other]

/-- A character splits a text where it stands behind others. -/
theorem splitAtFirst_append {c : Char} {before : List Char} (free : c ∉ before)
    (after : List Char) : splitAtFirst c (before ++ c :: after) = some (before, after) := by
  induction before with
  | nil => simp [splitAtFirst]
  | cons d before ih =>
    rw [List.mem_cons, not_or] at free
    rw [List.cons_append, splitAtFirst, if_neg (Ne.symm free.1), ih free.2]
    rfl

/-- A split is at the first occurrence, with the rest of the text on either side of it. -/
theorem splitAtFirst_eq_some_iff {c : Char} {cs before after : List Char} :
    splitAtFirst c cs = some (before, after) ↔ c ∉ before ∧ cs = before ++ c :: after := by
  constructor
  · intro h
    refine ⟨fun mem ↦ ?_, eq_of_splitAtFirst h⟩
    have none := List.all_eq_true.mp (List.all_takeWhile (p := (· ≠ c)) (l := cs))
    rw [takeWhile_of_splitAtFirst h] at none
    simpa using none c mem
  · rintro ⟨free, rfl⟩
    exact splitAtFirst_append free after

section Runs

variable {p : Char → Bool} {cs more : List Char} (all : ∀ c ∈ cs, p c = true)
  (stop : ∀ c ∈ more.head?, p c = false)

include all stop

/-- A run at the front is taken up to the first character that is not of its class. -/
theorem takeWhile_append : (cs ++ more).takeWhile p = cs := by
  rw [List.takeWhile_append_of_pos all]
  cases more with
  | nil => exact List.append_nil cs
  | cons c more => rw [List.takeWhile_cons_of_neg (by simp [stop c rfl]), List.append_nil]

/-- A run at the front is dropped up to the first character that is not of its class. -/
theorem dropWhile_append : (cs ++ more).dropWhile p = more := by
  rw [List.dropWhile_append_of_pos all]
  cases more with
  | nil => rfl
  | cons c more => rw [List.dropWhile_cons_of_neg (by simp [stop c rfl])]

end Runs

end Teletype.Text
