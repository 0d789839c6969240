import Teletype.Random.Source
/-!
# What is drawn

A number that is drawn lies within the bounds it is drawn between, from every random source and
however many words are refused.
-/

namespace Teletype.Random.Source

/-- A number drawn below a range is below it. -/
theorem fst_drawBelow_lt {range : Nat} (positive : 0 < range) (s : Source) :
    (s.drawBelow range).1 < range := by
  have scaled (v : UInt64) : v.toNat * range / 2 ^ 64 < range := by
    rw [Nat.div_lt_iff_lt_mul (by decide), Nat.mul_comm range]
    exact Nat.mul_lt_mul_of_pos_right v.toNat_lt positive
  rw [drawBelow]
  generalize maxRefusals = fuel
  induction fuel generalizing s with
  | zero => exact scaled _
  | succ fuel ih =>
    simp only [drawWithin]
    split
    · exact scaled _
    · exact ih _

/-- A number drawn between two bounds of 64 bits lies between them. -/
theorem fst_drawBetween {low high : Int} (le : low ≤ high) (least : -2 ^ 63 ≤ low)
    (most : high < 2 ^ 63) (s : Source) :
    low ≤ (s.drawBetween low high).1 ∧ (s.drawBetween low high).1 ≤ high := by
  rw [drawBetween]
  split
  · next all =>
    -- the range leaves no remainder only when the bounds are those of the words themselves
    have lower := s.next.1.toInt64.le_toInt
    have upper := s.next.1.toInt64.toInt_lt
    dsimp only
    omega
  · next some =>
    have below := s.fst_drawBelow_lt (Nat.pos_of_ne_zero some)
    dsimp only
    omega

end Teletype.Random.Source
