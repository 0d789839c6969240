import Mathlib.Data.Nat.Bitwise
import Mathlib.Logic.Function.Iterate
import Teletype.Regex.Basic
/-!
# What a regular expression matches

A regular expression relates the places of a text between which it matches. Following all places at
once finds just the places that are related to one of them, and a repetition without end is followed
far enough, since a match that goes nowhere need not be repeated.
-/

namespace Teletype.Regex

/-! ## Matches from place to place -/

/-- The character before a place of a text, given the one before the text. -/
def charBefore (before : Option Char) (text : List Char) : Nat → Option Char
  | 0 => before
  | i + 1 => text[i]?

/-- A step from place to place, taken a number of times. -/
def Times (step : Nat → Nat → Prop) : Nat → Nat → Nat → Prop
  | 0, i, j => i = j
  | count + 1, i, k => ∃ j, step i j ∧ Times step count j k

/-- The part of a text between two places matches. A repetition whose most is below its least is
taken the least number of times. -/
def Spans (text : List Char) : Regex → Nat → Nat → Prop
  | empty, i, j => i = j
  | one set, i, j => j = i + 1 ∧ ∃ c, text[i]? = some c ∧ set.contains c = true
  | look a, i, j => j = i ∧ i ≤ text.length ∧ a.holds (charBefore none text i) text[i]? = true
  | sequence first second, i, k => ∃ j, first.Spans text i j ∧ second.Spans text j k
  | either first second, i, j => first.Spans text i j ∨ second.Spans text i j
  | repeated body least most, i, j =>
    ∃ count, least ≤ count ∧ (∀ m, most = some m → count ≤ max least m) ∧
      Times (body.Spans text) count i j

variable {step : Nat → Nat → Prop} {text : List Char} {i j k : Nat}

/-- Steps are taken one after another. -/
theorem times_add (m n : Nat) :
    Times step (m + n) i k ↔ ∃ j, Times step m i j ∧ Times step n j k := by
  induction m generalizing i with
  | zero => simp [Times]
  | succ m ih =>
    rw [Nat.succ_add]
    constructor
    · rintro ⟨next, first, later⟩
      obtain ⟨j, before, behind⟩ := ih.mp later
      exact ⟨j, ⟨next, first, before⟩, behind⟩
    · rintro ⟨j, ⟨next, first, before⟩, behind⟩
      exact ⟨next, first, ih.mpr ⟨j, before, behind⟩⟩

/-- To step or to stay a number of times is to take that many steps or fewer. -/
theorem times_or_stay (n : Nat) :
    Times (fun i j ↦ i = j ∨ step i j) n i k ↔ ∃ m ≤ n, Times step m i k := by
  induction n generalizing i with
  | zero =>
    constructor
    · exact fun same ↦ ⟨0, Nat.le_refl 0, same⟩
    · rintro ⟨m, few, taken⟩
      rwa [Nat.le_zero.mp few] at taken
  | succ n ih =>
    constructor
    · rintro ⟨j, rfl | first, later⟩
      · obtain ⟨m, few, taken⟩ := ih.mp later
        exact ⟨m, Nat.le_succ_of_le few, taken⟩
      · obtain ⟨m, few, taken⟩ := ih.mp later
        exact ⟨m + 1, Nat.succ_le_succ few, j, first, taken⟩
    · rintro ⟨m, few, taken⟩
      cases m with
      | zero => exact ⟨i, .inl rfl, ih.mpr ⟨0, Nat.zero_le n, taken⟩⟩
      | succ m =>
        obtain ⟨j, first, later⟩ := taken
        exact ⟨j, .inr first, ih.mpr ⟨m, Nat.le_of_succ_le_succ few, later⟩⟩

/-- Steps that stay or go forward within a length need not be taken more often than that length. -/
theorem exists_few_times {length n : Nat}
    (forward : ∀ i j, step i j → i = j ∨ i < j ∧ j ≤ length) (taken : Times step n i k) :
    ∃ m ≤ k - i, Times step m i k ∧ (i = k ∨ i < k ∧ k ≤ length) := by
  induction n generalizing i with
  | zero => exact ⟨0, Nat.zero_le _, taken, .inl taken⟩
  | succ n ih =>
    obtain ⟨j, first, later⟩ := taken
    obtain ⟨m, few, again, ended⟩ := ih later
    rcases forward i j first with rfl | ⟨on, within⟩
    · exact ⟨m, few, again, ended⟩
    · refine ⟨m + 1, ?_, ⟨j, first, again⟩, .inr ?_⟩ <;> omega

/-- A match ends where it begins, or further on in the text. -/
theorem Spans.forward {r : Regex} (h : r.Spans text i j) : i = j ∨ i < j ∧ j ≤ text.length := by
  induction r generalizing i j with
  | empty => exact .inl h
  | one set =>
    obtain ⟨rfl, c, stands, -⟩ := h
    obtain ⟨inside, -⟩ := List.getElem?_eq_some_iff.mp stands
    exact .inr ⟨Nat.lt_succ_self i, inside⟩
  | look a => exact .inl h.1.symm
  | sequence first second ihFirst ihSecond =>
    obtain ⟨middle, before, behind⟩ := h
    have := ihFirst before
    have := ihSecond behind
    omega
  | either first second ihFirst ihSecond => exact h.elim ihFirst ihSecond
  | repeated body least most ih =>
    obtain ⟨count, -, -, taken⟩ := h
    obtain ⟨m, -, -, ended⟩ := exists_few_times (fun _ _ ↦ ih) taken
    exact ended

/-! ## Places, bit by bit -/

private theorem testBit_zero_place (b : Bool) (places : Nat) :
    (bit b + 2 * places).testBit 0 = b := by
  cases b <;> simp [bit, Nat.testBit_zero]

private theorem testBit_succ_place (b : Bool) (places i : Nat) :
    (bit b + 2 * places).testBit (i + 1) = places.testBit i := by
  have half : (bit b + 2 * places) / 2 = places := by
    cases b with
    | false => simp [bit]
    | true =>
      change (1 + 2 * places) / 2 = places
      omega
  rw [Nat.testBit_succ, half]

/-- The hits of a set are the places before its characters. -/
theorem testBit_hits (set : CharSet) (text : List Char) (i : Nat) :
    (hits set text).testBit i = true ↔ ∃ c, text[i]? = some c ∧ set.contains c = true := by
  induction text generalizing i with
  | nil => simp [hits]
  | cons c text ih =>
    rw [hits]
    cases i with
    | zero =>
      rw [testBit_zero_place]
      simp
    | succ i => rw [testBit_succ_place, ih, List.getElem?_cons_succ]

/-- The spots of an assertion are the places of the text where it holds. -/
theorem testBit_spots (a : Assertion) (before : Option Char) (text : List Char) (i : Nat) :
    (spots a before text).testBit i = true ↔
      i ≤ text.length ∧ a.holds (charBefore before text i) text[i]? = true := by
  induction text generalizing before i with
  | nil =>
    change (bit (a.holds before none) + 2 * 0).testBit i = true ↔ _
    cases i with
    | zero =>
      rw [testBit_zero_place]
      simp [charBefore]
    | succ i =>
      rw [testBit_succ_place]
      simp
  | cons c text ih =>
    rw [spots]
    cases i with
    | zero =>
      rw [testBit_zero_place]
      simp [charBefore]
    | succ i =>
      rw [testBit_succ_place, ih]
      cases i <;> simp [charBefore]

/-- A step that is repeated until nothing changes is repeated as often as it is asked for. -/
theorem iterate_eq (f : Places → Places) (count : Nat) (places : Places) :
    iterate f count places = f^[count] places := by
  induction count generalizing places with
  | zero => rfl
  | succ count ih =>
    rw [iterate]
    split
    · next same => exact (Function.iterate_fixed same (count + 1)).symm
    · exact ih (f places)

/-- A function of sets of places follows a step from each of the places. -/
def Follows (f : Places → Places) (step : Nat → Nat → Prop) : Prop :=
  ∀ places j, (f places).testBit j = true ↔ ∃ i, places.testBit i = true ∧ step i j

variable {f : Places → Places}

/-- Following a step again and again is to follow it a number of times. -/
theorem Follows.iterate (h : Follows f step) (count : Nat) :
    Follows (Regex.iterate f count) (Times step count) := by
  intro places j
  rw [iterate_eq]
  induction count generalizing places with
  | zero => simp [Times]
  | succ count ih =>
    rw [Function.iterate_succ_apply, ih]
    constructor
    · rintro ⟨next, stands, later⟩
      obtain ⟨i, start, first⟩ := (h places next).mp stands
      exact ⟨i, start, next, first, later⟩
    · rintro ⟨i, start, next, first, later⟩
      exact ⟨next, (h places next).mpr ⟨i, start, first⟩, later⟩

/-- To add the places that a step leads to is to step or to stay. -/
theorem Follows.or_stay (h : Follows f step) :
    Follows (fun places ↦ places ||| f places) (fun i j ↦ i = j ∨ step i j) := by
  intro places j
  rw [Nat.testBit_or, Bool.or_eq_true, h]
  constructor
  · rintro (stays | ⟨i, start, first⟩)
    · exact ⟨j, stays, .inl rfl⟩
    · exact ⟨i, start, .inr first⟩
  · rintro ⟨i, start, rfl | first⟩
    · exact .inl start
    · exact .inr ⟨i, start, first⟩

/-- Following a step a least number of times and up to some number of times more. -/
private theorem Follows.repeated (h : Follows f step) (least extra : Nat) :
    Follows (fun places ↦ Regex.iterate (fun p ↦ p ||| f p) extra (Regex.iterate f least places))
      (fun i j ↦ ∃ more ≤ extra, Times step (least + more) i j) := by
  intro places j
  rw [(h.or_stay.iterate extra) _ j]
  constructor
  · rintro ⟨middle, stands, later⟩
    obtain ⟨more, few, taken⟩ := (times_or_stay extra).mp later
    obtain ⟨i, start, before⟩ := ((h.iterate least) places middle).mp stands
    exact ⟨i, start, more, few, (times_add least more).mpr ⟨middle, before, taken⟩⟩
  · rintro ⟨i, start, more, few, taken⟩
    obtain ⟨middle, before, behind⟩ := (times_add least more).mp taken
    exact ⟨middle, ((h.iterate least) places middle).mpr ⟨i, start, before⟩,
      (times_or_stay extra).mpr ⟨more, few, behind⟩⟩

/-! ## What matching finds -/

/-- The places where matching ends are those where a match from one of the given places ends. -/
theorem follows_ends (text : List Char) (r : Regex) : Follows (r.ends text) (r.Spans text) := by
  induction r with
  | empty => exact fun places j ↦ by simp [ends, Spans]
  | one set =>
    intro places j
    rw [ends, Nat.testBit_shiftLeft]
    cases j with
    | zero => simp [Spans]
    | succ j =>
      have behind : decide (j + 1 ≥ 1) = true := decide_eq_true (Nat.succ_pos j)
      rw [behind, Bool.true_and, Nat.add_sub_cancel, Nat.testBit_and, Bool.and_eq_true,
        testBit_hits]
      constructor
      · exact fun h ↦ ⟨j, h.1, rfl, h.2⟩
      · rintro ⟨i, start, same, hit⟩
        obtain rfl := Nat.succ_inj.mp same
        exact ⟨start, hit⟩
  | look a =>
    intro places j
    have spot := testBit_spots a none text j
    simp only [ends, Spans, Nat.testBit_and, Bool.and_eq_true, spot]
    constructor
    · exact fun h ↦ ⟨j, h.1, rfl, h.2⟩
    · rintro ⟨i, start, rfl, holds⟩
      exact ⟨start, holds⟩
  | sequence first second ihFirst ihSecond =>
    intro places k
    rw [ends, ihSecond]
    constructor
    · rintro ⟨j, stands, behind⟩
      obtain ⟨i, start, before⟩ := (ihFirst places j).mp stands
      exact ⟨i, start, j, before, behind⟩
    · rintro ⟨i, start, j, before, behind⟩
      exact ⟨j, (ihFirst places j).mpr ⟨i, start, before⟩, behind⟩
  | either first second ihFirst ihSecond =>
    intro places j
    rw [ends, Nat.testBit_or, Bool.or_eq_true, ihFirst, ihSecond, ← exists_or]
    simp only [Spans, and_or_left]
  | repeated body least most ih =>
    intro places j
    refine (ih.repeated least _ places j).trans (exists_congr fun i ↦ and_congr_right fun _ ↦ ?_)
    cases most with
    | some most =>
      constructor
      · rintro ⟨more, few, taken⟩
        refine ⟨least + more, Nat.le_add_right _ _, fun m same ↦ ?_, taken⟩
        cases same
        change more ≤ most - least at few
        omega
      · rintro ⟨count, enough, few, taken⟩
        have few := few most rfl
        refine ⟨count - least, ?_, by rwa [Nat.add_sub_cancel' enough]⟩
        change count - least ≤ most - least
        omega
    | none =>
      constructor
      · rintro ⟨more, -, taken⟩
        exact ⟨least + more, Nat.le_add_right _ _, fun _ ended ↦ (nomatch ended), taken⟩
      · rintro ⟨count, enough, -, taken⟩
        rw [← Nat.add_sub_cancel' enough] at taken
        obtain ⟨middle, before, behind⟩ := (times_add least _).mp taken
        obtain ⟨more, few, again, ended⟩ := exists_few_times (fun _ _ ↦ Spans.forward) behind
        refine ⟨more, ?_, (times_add least more).mpr ⟨middle, before, again⟩⟩
        change more ≤ text.length
        omega

/-- Some part of a text matches just when the matching finds one. -/
theorem occursIn_iff (r : Regex) (text : List Char) :
    r.occursIn text = true ↔ ∃ i ≤ text.length, ∃ j, r.Spans text i j := by
  have start (i : Nat) : (everywhere text).testBit i = true ↔ i ≤ text.length := by
    rw [everywhere, Nat.testBit_two_pow_sub_one, decide_eq_true_iff, Nat.lt_succ_iff]
  have found : r.occursIn text = true ↔ ∃ j, (r.ends text (everywhere text)).testBit j = true := by
    rw [occursIn, bne_iff_ne]
    constructor
    · intro found
      by_contra missing
      refine found (Nat.zero_of_testBit_eq_false fun j ↦ ?_)
      exact Bool.eq_false_of_not_eq_true fun stands ↦ missing ⟨j, stands⟩
    · rintro ⟨j, stands⟩ missing
      rw [missing, Nat.zero_testBit] at stands
      cases stands
  rw [found]
  constructor
  · rintro ⟨j, stands⟩
    obtain ⟨i, within, span⟩ := (follows_ends text r _ j).mp stands
    exact ⟨i, (start i).mp within, j, span⟩
  · rintro ⟨i, within, j, span⟩
    exact ⟨j, (follows_ends text r _ j).mpr ⟨i, (start i).mpr within, span⟩⟩

end Teletype.Regex
