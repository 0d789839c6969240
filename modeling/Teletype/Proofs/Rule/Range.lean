import Teletype.Proofs.Decimal.Whole
import Teletype.Proofs.Random.Draw
import Teletype.Proofs.Value.Numeric
import Teletype.Rule
/-!
# Ranges

A rule in brackets gives a whole number of the range between them. A square bracket keeps its bound
and a round one leaves it out, so the least and the greatest number that can be drawn are those of
the range, and a range without a whole number is refused before anything is drawn.
-/

namespace Teletype.Rule

open Decimal

/-- A range of whole numbers between two bounds. -/
structure Interval where
  /-- Whether the lower bound belongs to the range. -/
  lowClosed : Bool
  low : Int
  high : Int
  /-- Whether the upper bound belongs to the range. -/
  highClosed : Bool

namespace Interval

/-- A whole number of a range. -/
structure Holds (i : Interval) (n : Int) : Prop where
  above : if i.lowClosed then i.low ≤ n else i.low < n
  below : if i.highClosed then n ≤ i.high else n < i.high

/-- How a range is written: its bounds in decimal with a comma between them and the brackets around
them, with or without blanks around each bound. -/
def IsWritten (i : Interval) (cs : List Char) : Prop :=
  ∃ first second, Text.Padded (WritesInt i.low) first ∧ Text.Padded (WritesInt i.high) second ∧
    cs = (if i.lowClosed then '[' else '(') ::
      ((first ++ ',' :: second) ++ [if i.highClosed then ']' else ')'])

/-- The brackets of a range with what is written between them. -/
def framed (i : Interval) (body : List Char) : Brackets := ⟨i.lowClosed, body, i.highClosed⟩

/-- The least number of a range, if it has any. -/
def least (i : Interval) : Int := if i.lowClosed then i.low else i.low + 1

/-- The greatest number of a range, if it has any. -/
def greatest (i : Interval) : Int := if i.highClosed then i.high else i.high - 1

variable {i : Interval} {n : Int}

/-- The numbers within the lower bound are those from the least one on. -/
theorem least_le_iff : i.least ≤ n ↔ if i.lowClosed then i.low ≤ n else i.low < n := by
  rw [least]
  split <;> omega

/-- The numbers within the upper bound are those up to the greatest one. -/
theorem le_greatest_iff : n ≤ i.greatest ↔ if i.highClosed then n ≤ i.high else n < i.high := by
  rw [greatest]
  split <;> omega

/-- The numbers of a range are those from the least to the greatest. -/
theorem holds_iff : i.Holds n ↔ i.least ≤ n ∧ n ≤ i.greatest := by
  rw [least_le_iff, le_greatest_iff]
  exact ⟨fun holds ↦ ⟨holds.above, holds.below⟩, fun within ↦ ⟨within.1, within.2⟩⟩

/-- There is a number in a range exactly when the least one is not above the greatest. -/
theorem exists_holds_iff : (∃ n, i.Holds n) ↔ i.least ≤ i.greatest := by
  simp only [holds_iff]
  exact ⟨fun ⟨n, above, below⟩ ↦ above.trans below, fun le ↦ ⟨i.least, le_rfl, le⟩⟩

/-- A bound that is moved by one number at most stays within `2 ^ 53`. -/
theorem abs_least_le (small : |i.low| < 2 ^ 53) : |i.least| ≤ 2 ^ 53 := by
  rw [abs_lt] at small
  rw [abs_le, least]
  split <;> omega

/-- So does the upper one. -/
theorem abs_greatest_le (small : |i.high| < 2 ^ 53) : |i.greatest| ≤ 2 ^ 53 := by
  rw [abs_lt] at small
  rw [abs_le, greatest]
  split <;> omega

end Interval

variable {x : Float} {q : ℚ} {n : Int} {closed : Bool} {cs body : List Char} {i : Interval}

/-! ## Bounds as doubles -/

/-- The whole numbers within a lower bound are those from the least one on. -/
theorem lowest_le_iff (exact : IsExactly x q) (low : -2 ^ 53 < q) (high : q < 2 ^ 53) :
    lowest closed x ≤ n ↔ if closed then q ≤ n else q < n := by
  rw [lowest, ceil?_of_isExactly exact, floor?_of_isExactly exact, Option.getD_some,
    Option.getD_some]
  cases closed with
  | true => simpa using Int.ceil_le
  | false =>
    have floor_low : -2 ^ 53 ≤ ⌊q⌋ := Int.le_floor.mpr (by push_cast; exact low.le)
    have floor_high : ⌊q⌋ < 2 ^ 53 := Int.floor_lt.mpr (by push_cast; exact high)
    simp only [Bool.false_eq_true, if_false]
    rw [nearestInt_of_le (by omega), Int.add_one_le_iff, Int.floor_lt]

/-- The whole numbers within an upper bound are those up to the greatest one. -/
theorem le_highest_iff (exact : IsExactly x q) (low : -2 ^ 53 < q) (high : q < 2 ^ 53) :
    n ≤ highest closed x ↔ if closed then n ≤ q else n < q := by
  rw [highest, ceil?_of_isExactly exact, floor?_of_isExactly exact, Option.getD_some,
    Option.getD_some]
  cases closed with
  | true => simpa using Int.le_floor
  | false =>
    have ceil_low : -2 ^ 53 < ⌈q⌉ := Int.lt_ceil.mpr (by push_cast; exact low)
    have ceil_high : ⌈q⌉ ≤ 2 ^ 53 := Int.ceil_le.mpr (by push_cast; exact high.le)
    simp only [Bool.false_eq_true, if_false]
    rw [nearestInt_of_le (by omega), Int.le_sub_one_iff, Int.lt_ceil]

/-! ## Reading -/

/-- A whole number is made of the characters of numerals. -/
private theorem isNumeralChar_of_mem (written : WritesInt n cs) :
    ∀ c ∈ cs, Value.isNumeralChar c = true := by
  have digit {digits : List Char} (isDigits : IsDigits digits) :
      ∀ c ∈ digits, Value.isNumeralChar c = true :=
    fun c mem ↦ by simp [Value.isNumeralChar, isDigits c mem]
  cases written with
  | plain isDigits => exact digit isDigits
  | plus isDigits | minus isDigits => exact List.forall_mem_cons.mpr ⟨by decide, digit isDigits⟩

/-- A whole number is no empty text. -/
private theorem ne_nil_of_writes (written : WritesInt n cs) : cs ≠ [] := by
  cases written with
  | plain _ nonempty => exact nonempty
  | plus | minus => exact List.cons_ne_nil _ _

/-- A bound in decimal is read as its number. -/
theorem exists_bound (written : Text.Padded (WritesInt n) cs) (small : n.natAbs ≤ 2 ^ 53) :
    ∃ x, bound? cs = some x ∧ IsExactly x n := by
  have core : WritesInt n (Text.trimChars cs) := by
    refine (Text.padded_iff fun core written ↦ Text.isTrimmed_of_forall fun c mem ↦ ?_).mp written
    exact Value.isBlank_of_isNumeralChar (isNumeralChar_of_mem written c mem)
  obtain ⟨x, read, exact⟩ := core.exists_float small
  refine ⟨x, ?_, exact⟩
  have number : Value.readNumber? (String.ofList cs) = some x := by
    rw [← read]
    simpa using Value.readNumber?_of_isNumeralChar (s := String.ofList cs)
      (by simpa using ne_nil_of_writes core) (by simpa using isNumeralChar_of_mem core)
  rw [bound?, if_neg (by simpa using ne_nil_of_writes core), number, Option.filter_some,
    isFinite_of_isExactly exact, if_pos rfl]

/-- No comma stands in a bound. -/
private theorem comma_not_mem (written : Text.Padded (WritesInt n) cs) : ',' ∉ cs := by
  obtain ⟨left, core, right, blankLeft, blankRight, written, rfl⟩ := written
  rw [List.mem_append, List.mem_append, not_or, not_or]
  have visible : ¬ Text.isBlank ',' = true := by
    rw [Text.isBlank_of_visible (by decide) (by decide)]
    decide
  refine ⟨fun mem ↦ visible (blankLeft _ mem), fun mem ↦ ?_, fun mem ↦ visible (blankRight _ mem)⟩
  exact absurd (isNumeralChar_of_mem written _ mem) (by decide)

/-- The brackets around a range are taken off. -/
private theorem brackets?_framed (i : Interval) (body : List Char) :
    brackets? ((if i.lowClosed then '[' else '(') ::
      (body ++ [if i.highClosed then ']' else ')'])) = some (i.framed body) := by
  obtain ⟨lowClosed, _, _, highClosed⟩ := i
  cases lowClosed <;> cases highClosed <;> simp [brackets?, Interval.framed]

/-- The brackets of a range are found, with or without blanks around them. -/
theorem exists_brackets (written : Text.Padded i.IsWritten cs) :
    ∃ first second, Text.Padded (WritesInt i.low) first ∧ Text.Padded (WritesInt i.high) second ∧
      brackets? (Text.trimChars cs) = some (i.framed (first ++ ',' :: second)) := by
  have trimmed (core : List Char) (written : i.IsWritten core) : Text.IsTrimmed core := by
    obtain ⟨first, second, -, -, rfl⟩ := written
    constructor
    · rintro c ⟨⟩
      cases i.lowClosed <;> decide
    · rw [List.reverse_cons, List.reverse_append]
      rintro c ⟨⟩
      cases i.highClosed <;> decide
  obtain ⟨first, second, low, high, whole⟩ := (Text.padded_iff trimmed).mp written
  exact ⟨first, second, low, high, whole ▸ brackets?_framed i _⟩

/-! ## What is drawn -/

section Drawn

variable (lowSmall : |i.low| < 2 ^ 53) (highSmall : |i.high| < 2 ^ 53)

include lowSmall highSmall

/-- The bounds that are read from brackets are the least and the greatest number of the range, which
is refused if the one is above the other. -/
theorem bounds_framed {first second : List Char} (low : Text.Padded (WritesInt i.low) first)
    (high : Text.Padded (WritesInt i.high) second) :
    bounds (i.framed (first ++ ',' :: second)) =
      if i.greatest < i.least then .error .emptyRange else .ok (i.least, i.greatest) := by
  have saturated {n : Int} (small : |n| ≤ 2 ^ 53) : saturate n = n := by
    rw [abs_le] at small
    rw [saturate]
    omega
  have keepsLeast := saturated (Interval.abs_least_le lowSmall)
  have keepsGreatest := saturated (Interval.abs_greatest_le highSmall)
  rw [abs_lt] at lowSmall highSmall
  obtain ⟨x, readLow, exactLow⟩ := exists_bound low (by omega)
  obtain ⟨y, readHigh, exactHigh⟩ := exists_bound high (by omega)
  have least : lowest i.lowClosed x = i.least := eq_of_forall_ge_iff fun n ↦ by
    rw [lowest_le_iff exactLow (by exact_mod_cast lowSmall.1) (by exact_mod_cast lowSmall.2),
      Interval.least_le_iff]
    norm_cast
  have greatest : highest i.highClosed y = i.greatest := eq_of_forall_le_iff fun n ↦ by
    rw [le_highest_iff exactHigh (by exact_mod_cast highSmall.1) (by exact_mod_cast highSmall.2),
      Interval.le_greatest_iff]
    norm_cast
  simp only [bounds, Interval.framed, Text.splitAtFirst_append (comma_not_mem low), readLow,
    readHigh, least, greatest, keepsLeast, keepsGreatest]

/-- What a range in brackets gives is drawn between the least and the greatest number of it. -/
theorem generate_of_isWritten {rule : String} (written : Text.Padded i.IsWritten rule.toList)
    (source : Random.Source) :
    (generate rule source).1 =
      if i.greatest < i.least then .error ⟨Text.trim rule, .emptyRange⟩
      else .ok (.number (ofInt (source.drawBetween i.least i.greatest).1)) := by
  obtain ⟨first, second, low, high, found⟩ := exists_brackets written
  simp only [generate, found, bounds_framed lowSmall highSmall low high]
  by_cases empty : i.greatest < i.least
  · rw [if_pos empty, if_pos empty]
    rfl
  · rw [if_neg empty, if_neg empty]

/-- The number that is drawn is one of the range, and a double stands for it. -/
theorem holds_drawBetween (le : i.least ≤ i.greatest) (source : Random.Source) :
    i.Holds (source.drawBetween i.least i.greatest).1 ∧
      IsExactly (ofInt (source.drawBetween i.least i.greatest).1)
        (source.drawBetween i.least i.greatest).1 := by
  have leastSmall := abs_le.mp (Interval.abs_least_le lowSmall)
  have greatestSmall := abs_le.mp (Interval.abs_greatest_le highSmall)
  have drawn := Random.Source.fst_drawBetween le (by omega) (by omega) source
  exact ⟨Interval.holds_iff.mpr drawn, isExactly_ofInt (by omega)⟩

end Drawn

/-- A range in brackets is refused as empty exactly when there is no whole number in it, and gives
one of its whole numbers otherwise, whatever the random source is. -/
theorem generate_gives_number_of_range (lowSmall : |i.low| < 2 ^ 53)
    (highSmall : |i.high| < 2 ^ 53) {rule : String}
    (written : Text.Padded i.IsWritten rule.toList) (source : Random.Source) :
    ((∃ e, (generate rule source).1 = .error e ∧
        e.message =
          "invalid rule \"" ++ Text.trim rule ++ "\": " ++ "range is empty or inverted") ↔
      ¬ ∃ n, i.Holds n) ∧
    ((∃ n, i.Holds n) →
      ∃ (x : Float) (n : Int), (generate rule source).1 = .ok (.number x) ∧ IsExactly x n ∧
        i.Holds n) := by
  rw [Interval.exists_holds_iff, generate_of_isWritten lowSmall highSmall written]
  constructor
  · rw [not_le]
    constructor
    · rintro ⟨e, failed, -⟩
      by_contra some
      rw [if_neg some] at failed
      cases failed
    · intro empty
      exact ⟨⟨Text.trim rule, .emptyRange⟩, if_pos empty, rfl⟩
  · intro le
    obtain ⟨holds, exact⟩ := holds_drawBetween lowSmall highSmall le source
    rw [if_neg (not_lt.mpr le)]
    exact ⟨_, _, rfl, exact, holds⟩

/-- The numbers of a die, from behind zero to six. -/
def die : Interval := ⟨false, 0, 6, true⟩

/-- The numbers between one and two, of which there are none. -/
def gap : Interval := ⟨false, 1, 2, false⟩

/-- The die gives one of its numbers, although there are blanks and a sign in the rule, and the gap
is refused. -/
theorem die_thrown_gap_refused :
    ((|die.low| < 2 ^ 53 ∧ |die.high| < 2 ^ 53 ∧
        Text.Padded die.IsWritten " ( 0 , +06] ".toList ∧ ∃ n, die.Holds n) ∧
      ∃ (x : Float) (n : Int), (generate " ( 0 , +06] " (.ofSeed 42)).1 = .ok (.number x) ∧
        IsExactly x n ∧ die.Holds n) ∧
    (|gap.low| < 2 ^ 53 ∧ |gap.high| < 2 ^ 53 ∧ Text.Padded gap.IsWritten "(1,2)".toList ∧
        ¬ ∃ n, gap.Holds n) ∧
      ∃ e, (generate "(1,2)" (.ofSeed 42)).1 = .error e ∧
        e.message =
          "invalid rule \"" ++ Text.trim "(1,2)" ++ "\": " ++ "range is empty or inverted" := by
  have blank : Text.IsBlank [' '] := List.forall_mem_singleton.mpr (by decide)
  have none : Text.IsBlank [] := Text.isBlank_nil
  have digit (c : Char) (isDigit : Decimal.isDigit c = true) : IsDigits [c] :=
    List.forall_mem_singleton.mpr isDigit
  have zero : WritesInt 0 ['0'] := .plain (digit '0' rfl) (List.cons_ne_nil _ _)
  have one : WritesInt 1 ['1'] := .plain (digit '1' rfl) (List.cons_ne_nil _ _)
  have two : WritesInt 2 ['2'] := .plain (digit '2' rfl) (List.cons_ne_nil _ _)
  have padded : IsDigits ['0', '6'] := List.forall_mem_cons.mpr ⟨rfl, digit '6' rfl⟩
  have six : WritesInt 6 ['+', '0', '6'] := .plus padded (List.cons_ne_nil _ _)
  have dieWritten : Text.Padded die.IsWritten " ( 0 , +06] ".toList :=
    ⟨[' '], "( 0 , +06]".toList, [' '], blank, blank, ⟨" 0 ".toList, " +06".toList,
      ⟨_, _, _, blank, blank, zero, rfl⟩, ⟨_, _, _, blank, none, six, rfl⟩, rfl⟩, rfl⟩
  have gapWritten : Text.Padded gap.IsWritten "(1,2)".toList :=
    ⟨[], "(1,2)".toList, [], none, none, ⟨"1".toList, "2".toList,
      ⟨_, _, _, none, none, one, rfl⟩, ⟨_, _, _, none, none, two, rfl⟩, rfl⟩, rfl⟩
  have some : ∃ n, die.Holds n := ⟨6, by decide, by decide⟩
  have empty : ¬ ∃ n, gap.Holds n := by
    rintro ⟨n, above, below⟩
    have : (1 : Int) < n := above
    have : n < (2 : Int) := below
    omega
  exact ⟨⟨⟨by decide, by decide, dieWritten, some⟩,
      (generate_gives_number_of_range (by decide) (by decide) dieWritten _).2 some⟩,
    ⟨by decide, by decide, gapWritten, empty⟩,
    (generate_gives_number_of_range (by decide) (by decide) gapWritten _).1.mpr empty⟩

end Teletype.Rule
