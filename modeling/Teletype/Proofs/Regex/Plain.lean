import Mathlib.Data.List.Basic
import Mathlib.Data.List.Sort
import Teletype.Regex.Flags
/-!
# Sets of characters below a bound

What is made of sets of plain characters consists of plain characters again, and the complement of
such a set does not. The operations on sets are made of unions and complements, so it is followed
how these keep to a bound, or reach to the last of all code points.
-/

namespace Teletype.CharSet

/-- Whether ranges are in order within themselves and keep below a bound. -/
def RangesBelow (bound : Nat) (ranges : List CodeRange) : Prop :=
  ∀ r ∈ ranges, r.first ≤ r.last ∧ r.last < bound

/-- Whether the characters of a set are below a bound. -/
def IsBelow (s : CharSet) (bound : Nat) : Prop := RangesBelow bound s.ranges

/-- Whether ranges hold all code points from a bound on, and begin nothing behind the bound. -/
structure RangesBeyond (bound : Nat) (ranges : List CodeRange) : Prop where
  begins : ∀ r ∈ ranges, r.first ≤ bound
  reaches : ∃ r ∈ ranges.getLast?, 0x10ffff ≤ r.last

variable {s t : CharSet} {bound bound' : Nat}

/-! ## Unions -/

private theorem rangesBelow_joinFrom (r : CodeRange) (ranges : List CodeRange)
    (below : RangesBelow bound (r :: ranges)) : RangesBelow bound (joinFrom r ranges) := by
  induction ranges generalizing r with
  | nil => exact below
  | cons next rest ih =>
    obtain ⟨first, next', rest'⟩ : (r.first ≤ r.last ∧ r.last < bound) ∧
        (next.first ≤ next.last ∧ next.last < bound) ∧ RangesBelow bound rest := by
      simpa [RangesBelow] using below
    rw [joinFrom]
    split
    · refine ih _ fun g mem ↦ ?_
      rcases List.mem_cons.mp mem with rfl | mem
      · exact ⟨Nat.le_trans first.1 (Nat.le_max_left _ _), Nat.max_lt.mpr ⟨first.2, next'.2⟩⟩
      · exact rest' g mem
    · intro g mem
      rcases List.mem_cons.mp mem with rfl | mem
      · exact first
      · exact ih next (fun g mem ↦ below g (List.mem_cons_of_mem r mem)) g mem

/-- Ranges below a bound make a set below the bound. -/
theorem isBelow_ofRanges {ranges : List CodeRange} (below : RangesBelow bound ranges) :
    (ofRanges ranges).IsBelow bound := by
  have sorted : RangesBelow bound (ranges.mergeSort fun a b ↦ decide (a.first ≤ b.first)) :=
    fun r mem ↦ below r (List.mem_mergeSort.mp mem)
  unfold ofRanges
  split
  · exact fun r mem ↦ nomatch mem
  · next r rest ahead =>
    rw [ahead] at sorted
    exact rangesBelow_joinFrom r rest sorted

/-- The union of sets below a bound is below the bound. -/
theorem isBelow_union {sets : List CharSet} (below : ∀ s ∈ sets, s.IsBelow bound) :
    (union sets).IsBelow bound := by
  refine isBelow_ofRanges fun r mem ↦ ?_
  obtain ⟨s, among, mem⟩ := List.mem_flatMap.mp mem
  exact below s among r mem

private theorem rangesBeyond_joinFrom (r : CodeRange) (ranges : List CodeRange)
    (sorted : (r :: ranges).Pairwise fun a b ↦ a.first ≤ b.first)
    (inside : ∀ g ∈ r :: ranges, g.first ≤ 0x10ffff)
    (reaching : ∃ g ∈ r :: ranges, g.first ≤ bound ∧ 0x10ffff ≤ g.last) :
    RangesBeyond bound (joinFrom r ranges) := by
  induction ranges generalizing r with
  | nil =>
    obtain ⟨g, mem, early, late⟩ := reaching
    obtain rfl := List.mem_singleton.mp mem
    exact ⟨fun r mem ↦ List.mem_singleton.mp mem ▸ early, g, rfl, late⟩
  | cons next rest ih =>
    obtain ⟨early, sorted'⟩ := List.pairwise_cons.mp sorted
    obtain ⟨before, sorted''⟩ := List.pairwise_cons.mp sorted'
    obtain ⟨g, mem, starts, ends⟩ := reaching
    rw [joinFrom]
    split
    · next meets =>
      refine ih _ (List.pairwise_cons.mpr ⟨fun g mem ↦ early g (List.mem_cons_of_mem next mem),
        sorted''⟩) (fun g mem ↦ ?_) ?_
      · rcases List.mem_cons.mp mem with rfl | mem
        · exact inside r List.mem_cons_self
        · exact inside g (List.mem_cons_of_mem r (List.mem_cons_of_mem next mem))
      · rcases List.mem_cons.mp mem with rfl | mem
        · exact ⟨_, List.mem_cons_self, starts, Nat.le_trans ends (Nat.le_max_left _ _)⟩
        rcases List.mem_cons.mp mem with rfl | mem
        · exact ⟨_, List.mem_cons_self, Nat.le_trans (early g List.mem_cons_self) starts,
            Nat.le_trans ends (Nat.le_max_right _ _)⟩
        · exact ⟨g, List.mem_cons_of_mem _ mem, starts, ends⟩
    · next apart =>
      -- A gap follows the first range, so it is a later one that reaches to the last code point.
      have inside' : next.first ≤ 0x10ffff := inside next (by simp)
      have later : g ∈ next :: rest := by
        rcases List.mem_cons.mp mem with rfl | mem
        · omega
        · exact mem
      obtain ⟨begins, last, reaches⟩ := ih next sorted'
        (fun g mem ↦ inside g (List.mem_cons_of_mem r mem)) ⟨g, later, starts, ends⟩
      refine ⟨fun g' mem ↦ ?_, last, ?_⟩
      · rcases List.mem_cons.mp mem with rfl | mem
        · exact Nat.le_trans (early g later) starts
        · exact begins g' mem
      · rw [Option.mem_def] at reaches ⊢
        rw [List.getLast?_cons, reaches.1]
        exact ⟨rfl, reaches.2⟩

/-- Ranges that reach from below a bound to the last code point make a set that does. -/
theorem rangesBeyond_ofRanges {ranges : List CodeRange} (inside : ∀ r ∈ ranges, r.first ≤ 0x10ffff)
    (reaching : ∃ r ∈ ranges, r.first ≤ bound ∧ 0x10ffff ≤ r.last) :
    RangesBeyond bound (ofRanges ranges).ranges := by
  have sorted : (ranges.mergeSort fun a b ↦ decide (a.first ≤ b.first)).Pairwise
      fun a b ↦ a.first ≤ b.first := by
    refine (List.pairwise_mergeSort (fun a b c ↦ ?_) (fun a b ↦ ?_) ranges).imp of_decide_eq_true
    · simpa only [decide_eq_true_eq] using Nat.le_trans
    · simpa only [Bool.or_eq_true, decide_eq_true_eq] using Nat.le_total a.first b.first
  obtain ⟨g, mem, starts, ends⟩ := reaching
  have kept : g ∈ ranges.mergeSort fun a b ↦ decide (a.first ≤ b.first) :=
    List.mem_mergeSort.mpr mem
  unfold ofRanges
  split
  · next none =>
    rw [none] at kept
    exact nomatch kept
  · next r rest ahead =>
    rw [ahead] at sorted kept
    refine rangesBeyond_joinFrom r rest sorted (fun g mem ↦ inside g ?_) ⟨g, kept, starts, ends⟩
    exact List.mem_mergeSort.mp (ahead ▸ mem)

/-! ## Complements -/

/-- The gaps between ranges that are below a bound reach from the bound to the last code point. -/
private theorem reaching_gapsFrom (n : Nat) (ranges : List CodeRange) (few : bound ≤ 0x10ffff)
    (start : n ≤ bound) (below : RangesBelow bound ranges) :
    (∀ g ∈ gapsFrom n ranges, g.first ≤ bound) ∧
      ∃ g ∈ gapsFrom n ranges, g.first ≤ bound ∧ g.last = 0x10ffff := by
  induction ranges generalizing n with
  | nil =>
    rw [gapsFrom, if_pos (Nat.le_trans start few)]
    simpa using start
  | cons r rest ih =>
    obtain ⟨begins, g, mem, starts, ends⟩ := ih (r.last + 1) (below r List.mem_cons_self).2
      fun g mem ↦ below g (List.mem_cons_of_mem r mem)
    rw [gapsFrom]
    split
    · refine ⟨fun g mem ↦ ?_, g, List.mem_cons_of_mem _ mem, starts, ends⟩
      rcases List.mem_cons.mp mem with rfl | mem
      · exact start
      · exact begins g mem
    · exact ⟨begins, g, mem, starts, ends⟩

/-- The gaps between ranges that reach from a bound to the last code point are below the bound. -/
private theorem rangesBelow_gapsFrom (n : Nat) (ranges : List CodeRange)
    (beyond : RangesBeyond bound ranges) : RangesBelow bound (gapsFrom n ranges) := by
  induction ranges generalizing n with
  | nil => exact nomatch beyond.reaches
  | cons r rest ih =>
    have gaps : RangesBelow bound (gapsFrom (r.last + 1) rest) := by
      cases rest with
      | nil =>
        obtain ⟨last, same, reaches⟩ := beyond.reaches
        obtain rfl : r = last := by simpa using same
        rw [gapsFrom, if_neg (by omega)]
        exact fun g mem ↦ nomatch mem
      | cons next rest =>
        refine ih _ ⟨fun g mem ↦ beyond.begins g (List.mem_cons_of_mem r mem), ?_⟩
        simpa using beyond.reaches
    rw [gapsFrom]
    split
    · next gap =>
      intro g mem
      rcases List.mem_cons.mp mem with rfl | mem
      · have := beyond.begins r List.mem_cons_self
        dsimp only
        omega
      · exact gaps g mem
    · exact gaps

/-- The complement of a union that holds the complement of a set below a bound is below the bound,
too. -/
theorem isBelow_complement_union {sets : List CharSet} (few : bound ≤ 0x10ffff)
    (inside : ∀ s ∈ sets, ∀ r ∈ s.ranges, r.first ≤ 0x10ffff) (below : s.IsBelow bound)
    (among : s.complement ∈ sets) : (complement (union sets)).IsBelow bound := by
  obtain ⟨-, g, mem, starts, ends⟩ := reaching_gapsFrom 0 s.ranges few (Nat.zero_le _) below
  refine rangesBelow_gapsFrom 0 _ (rangesBeyond_ofRanges (fun r mem ↦ ?_)
    ⟨g, List.mem_flatMap.mpr ⟨_, among, mem⟩, starts, Nat.le_of_eq ends.symm⟩)
  obtain ⟨t, among, mem⟩ := List.mem_flatMap.mp mem
  exact inside t among r mem

/-- The ranges of the complement of a set below a bound begin with code points. -/
private theorem first_le_of_complement (few : bound ≤ 0x10ffff) (below : s.IsBelow bound)
    (r : CodeRange) (mem : r ∈ s.complement.ranges) : r.first ≤ 0x10ffff :=
  Nat.le_trans ((reaching_gapsFrom 0 s.ranges few (Nat.zero_le _) below).1 r mem) few

/-- The ranges of a set below a bound begin with code points. -/
private theorem first_le_of_isBelow (few : bound ≤ 0x10ffff) (below : s.IsBelow bound)
    (r : CodeRange) (mem : r ∈ s.ranges) : r.first ≤ 0x10ffff := by
  have := below r mem
  omega

/-- What two sets share is below the bound of each. -/
theorem isBelow_intersection (few : bound ≤ 0x10ffff) (few' : bound' ≤ 0x10ffff)
    (left : s.IsBelow bound) (right : t.IsBelow bound') : (intersection s t).IsBelow bound' := by
  refine isBelow_complement_union few' (fun u among r mem ↦ ?_) right (by simp)
  simp only [List.mem_cons, List.not_mem_nil, or_false] at among
  rcases among with rfl | rfl
  · exact first_le_of_complement few left r mem
  · exact first_le_of_complement few' right r mem

/-- What is left of a set is below the bound of the set. -/
theorem isBelow_difference (few : bound ≤ 0x10ffff) (few' : bound' ≤ 0x10ffff)
    (left : s.IsBelow bound) (right : t.IsBelow bound') : (difference s t).IsBelow bound := by
  refine isBelow_complement_union few (fun u among r mem ↦ ?_) left (by simp)
  simp only [List.mem_cons, List.not_mem_nil, or_false] at among
  rcases among with rfl | rfl
  · exact first_le_of_complement few left r mem
  · exact first_le_of_isBelow few' right r mem

/-- What is in one of two sets only is below their bound. -/
theorem isBelow_symmetricDifference (few : bound ≤ 0x10ffff) (left : s.IsBelow bound)
    (right : t.IsBelow bound) : (symmetricDifference s t).IsBelow bound := by
  refine isBelow_union fun u among ↦ ?_
  simp only [List.mem_cons, List.not_mem_nil, or_false] at among
  rcases among with rfl | rfl
  · exact isBelow_difference few few left right
  · exact isBelow_difference few few right left

/-! ## Plain characters -/

/-- Whether the characters of a set are plain. -/
abbrev HoldsPlain (s : CharSet) : Prop := s.IsBelow 0x80

/-- A set of plain characters is found to be one. -/
theorem HoldsPlain.isPlain (h : s.HoldsPlain) : Regex.isPlain s = true :=
  List.all_eq_true.mpr fun r mem ↦ decide_eq_true (h r mem).2

/-- The complement of a set of plain characters is not found to be one. -/
theorem HoldsPlain.isPlain_complement (h : s.HoldsPlain) :
    Regex.isPlain s.complement = false := by
  obtain ⟨-, g, mem, -, ends⟩ := reaching_gapsFrom 0 s.ranges (by decide) (Nat.zero_le _) h
  refine List.all_eq_false.mpr ⟨g, mem, ?_⟩
  rw [ends]
  decide

/-- A plain character is a set of one. -/
theorem holdsPlain_only {c : Char} (plain : c.toNat < 0x80) : (only c).HoldsPlain := by
  intro r mem
  obtain rfl := List.mem_singleton.mp mem
  exact ⟨Nat.le_refl _, plain⟩

/-- A range of plain characters is a set of them. -/
theorem holdsPlain_range {a b : Char} (order : a ≤ b) (plain : b.toNat < 0x80) :
    (range a b).HoldsPlain := by
  intro r mem
  obtain rfl := List.mem_singleton.mp mem
  exact ⟨order, plain⟩

/-- Plain characters have plain characters in the other case. -/
theorem HoldsPlain.asciiFolded (h : s.HoldsPlain) : s.asciiFolded.HoldsPlain := by
  have latin (a b : Char) (few : b.toNat + 1 ≤ 0x10ffff) (order : a ≤ b) :
      (intersection s (range a b)).IsBelow (b.toNat + 1) := by
    refine isBelow_intersection (by decide) few h fun r mem ↦ ?_
    obtain rfl := List.mem_singleton.mp mem
    exact ⟨order, Nat.lt_succ_self _⟩
  refine isBelow_union fun t among ↦ ?_
  simp only [List.mem_cons, List.not_mem_nil, or_false] at among
  rcases among with rfl | rfl | rfl
  · exact h
  · intro r mem
    obtain ⟨g, among, rfl⟩ := List.mem_map.mp mem
    obtain ⟨order, few⟩ := latin 'a' 'z' (by decide) (by decide) g among
    change g.last < 123 at few
    dsimp only
    omega
  · intro r mem
    obtain ⟨g, among, rfl⟩ := List.mem_map.mp mem
    obtain ⟨order, few⟩ := latin 'A' 'Z' (by decide) (by decide) g among
    change g.last < 91 at few
    dsimp only
    omega

/-- Ranges of plain characters make a set of them. -/
theorem holdsPlain_between {ranges : List (Char × Char)}
    (plain : ∀ r ∈ ranges, r.1 ≤ r.2 ∧ r.2.toNat < 0x80) : (between ranges).HoldsPlain := by
  refine isBelow_ofRanges fun r mem ↦ ?_
  obtain ⟨ends, among, rfl⟩ := List.mem_map.mp mem
  exact plain ends among

private theorem holdsPlain_asciiDigit : asciiDigit.HoldsPlain :=
  holdsPlain_range (by decide) (by decide)

private theorem holdsPlain_asciiAlphanumeric : asciiAlphanumeric.HoldsPlain := by
  refine isBelow_union fun s among ↦ ?_
  simp only [List.mem_cons, List.not_mem_nil, or_false] at among
  rcases among with rfl | rfl
  · exact holdsPlain_between (by decide)
  · exact holdsPlain_asciiDigit

private theorem holdsPlain_asciiWord : asciiWord.HoldsPlain := by
  refine isBelow_union fun s among ↦ ?_
  simp only [List.mem_cons, List.not_mem_nil, or_false] at among
  rcases among with rfl | rfl
  · exact holdsPlain_asciiAlphanumeric
  · exact holdsPlain_only (by decide)

/-- The class of a letter over the plain characters holds plain characters only. -/
theorem holdsPlain_letterClass? {c : Char} (named : letterClass? false c = some s) :
    s.HoldsPlain := by
  unfold letterClass? at named
  split at named <;> cases named
  · exact holdsPlain_asciiDigit
  · exact holdsPlain_between (by decide)
  · exact holdsPlain_asciiWord

/-- A class in double brackets holds plain characters only. -/
theorem holdsPlain_bracketClass? {name : String} (named : bracketClass? name = some s) :
    s.HoldsPlain := by
  unfold bracketClass? at named
  split at named <;> cases named
  · exact holdsPlain_asciiAlphanumeric
  · exact holdsPlain_between (by decide)
  · exact holdsPlain_range (by decide) (by decide)
  · exact holdsPlain_between (by decide)
  · exact holdsPlain_between (by decide)
  · exact holdsPlain_asciiDigit
  · exact holdsPlain_range (by decide) (by decide)
  · exact holdsPlain_range (by decide) (by decide)
  · exact holdsPlain_range (by decide) (by decide)
  · exact isBelow_difference (by decide) (by decide) (holdsPlain_range (by decide) (by decide))
      holdsPlain_asciiAlphanumeric
  · exact holdsPlain_between (by decide)
  · exact holdsPlain_range (by decide) (by decide)
  · exact holdsPlain_asciiWord
  · exact holdsPlain_between (by decide)

end Teletype.CharSet
