import Mathlib
import Teletype.Proofs.Decimal.Grammar
/-!
# Whole numbers as doubles

A finite double keeps the bits it is made of and stands for a rational number, whose floor and
ceiling are those of the double. The whole numbers up to `2 ^ 53` on either side of zero are doubles
themselves: rounding one gives the very number, and so does reading its digits.
-/

namespace Teletype.Decimal

/-! ## Bits -/

section Bits

open Float.Model.UnpackedFloat

/-- A finite double has the bits it was made of. -/
theorem toBits_ofBits {w : UInt64} (finite : w.toNat / 2 ^ 52 % 2 ^ 11 ≠ 2047) :
    (Float.ofBits w).toBits = w := by
  have exponent : (@unpackExponent .binary64 w.toBitVec).toNat = w.toNat / 2 ^ 52 % 2 ^ 11 := by
    simp [unpackExponent, BitVec.extractLsb_toNat, Nat.shiftRight_eq_div_pow]
  have number : ¬ @isNaNBits .binary64 w.toBitVec := by
    intro nan
    have all_set : @unpackExponent .binary64 w.toBitVec = -1#11 := by
      simp only [isNaNBits, decide_eq_true_eq] at nan
      exact nan.1
    exact finite (by rw [← exponent, all_set]; rfl)
  -- only a NaN has more than one word, and packs into the first of them
  have kept : pack .binary64 (unpack .binary64 w.toBitVec) = w.toBitVec := by
    rw [pack_unpack, if_neg number]
  simp only [Float.ofBits, Float.toBits, Float.Model.ofBits, Float.Model.pack, kept]

end Bits

variable {x : Float} {q : ℚ} {n : Nat} {negative : Bool}

/-- A double below the infinite ones is read from the bits it was made of. -/
theorem ofFloat_ofSignedBits {bits : Nat} (finite : bits < infinityBits) :
    Double.ofFloat (ofSignedBits negative bits) =
      Double.ofBits (if negative then 2 ^ 63 + bits else bits) := by
  rw [infinityBits] at finite
  have word : (UInt64.ofNat (if negative then 2 ^ 63 + bits else bits)).toNat =
      if negative then 2 ^ 63 + bits else bits := by
    rw [UInt64.toNat_ofNat']
    split <;> omega
  rw [Double.ofFloat, ofSignedBits, toBits_ofBits, word]
  rw [word]
  split <;> omega

/-- The fields of a normal double. -/
theorem ofBits_normal {place mantissa : Nat} (low : 2 ^ 52 ≤ mantissa) (high : mantissa < 2 ^ 53)
    (few : place < 2046) :
    Double.ofBits (if negative then 2 ^ 63 + (place * 2 ^ 52 + mantissa)
      else place * 2 ^ 52 + mantissa) = .finite negative mantissa ((place : Int) - 1074) := by
  generalize word : (if negative then 2 ^ 63 + (place * 2 ^ 52 + mantissa)
    else place * 2 ^ 52 + mantissa) = bits
  have sign : (bits / 2 ^ 63 % 2 == 1) = negative := by
    cases negative <;> simp only [Bool.false_eq_true, if_true, if_false] at word <;> grind
  have biased : bits / 2 ^ 52 % 2 ^ 11 = place + 1 := by
    split at word <;> omega
  have fraction : 2 ^ 52 + bits % 2 ^ 52 = mantissa := by
    split at word <;> omega
  simp only [Double.ofBits, sign, biased, fraction]
  rw [if_neg (by omega), if_neg (by omega)]
  congr 1
  omega

/-! ## Floors and ceilings -/

/-- The number that a finite double stands for. -/
def Double.value? : Double → Option ℚ
  | finite negative mantissa exponent =>
    some ((if negative then -1 else 1) * (mantissa * 2 ^ exponent))
  | _ => none

/-- A double that is just some number. -/
def IsExactly (x : Float) (q : ℚ) : Prop := (Double.ofFloat x).value? = some q

/-- A finite double as a quotient of whole numbers. -/
private theorem exists_quotient (exact : IsExactly x q) :
    ∃ negative mantissa exponent, Double.ofFloat x = .finite negative mantissa exponent ∧
      q = (((if negative then -1 else 1) * (mantissa * 2 ^ exponent.toNat) : ℤ) : ℚ) /
        ((2 ^ (-exponent).toNat : ℕ) : ℚ) := by
  rw [IsExactly] at exact
  cases reading : Double.ofFloat x with
  | nan | infinite => simp [reading, Double.value?] at exact
  | finite negative mantissa exponent =>
    refine ⟨negative, mantissa, exponent, rfl, ?_⟩
    have power : (2 : ℚ) ^ exponent = 2 ^ exponent.toNat / 2 ^ (-exponent).toNat := by
      rw [← zpow_natCast, ← zpow_natCast, ← zpow_sub₀ (by decide)]
      congr 1
      omega
    rw [reading, Double.value?, Option.some.injEq] at exact
    rw [← exact, power]
    push_cast
    split <;> ring

/-- The floor of a double is that of the number. -/
theorem floor?_of_isExactly (exact : IsExactly x q) : floor? x = some ⌊q⌋ := by
  obtain ⟨negative, mantissa, exponent, reading, rfl⟩ := exists_quotient exact
  rw [floor?, reading, Rat.floor_intCast_div_natCast]
  cases negative <;> simp

/-- The ceiling of a double is that of the number. -/
theorem ceil?_of_isExactly (exact : IsExactly x q) : ceil? x = some ⌈q⌉ := by
  obtain ⟨negative, mantissa, exponent, reading, rfl⟩ := exists_quotient exact
  rw [ceil?, reading, Rat.ceil_intCast_div_natCast]
  cases negative <;> simp

/-- A double that is some number is finite. -/
theorem isFinite_of_isExactly (exact : IsExactly x q) : isFinite x = true := by
  obtain ⟨negative, mantissa, exponent, reading, -⟩ := exists_quotient exact
  rw [isFinite, reading]

/-! ## Rounding -/

/-- A number that is moved up to have its first binary digit at some place. -/
private theorem le_mul_and_lt {place : Nat} (positive : 0 < n) (room : n.log2 ≤ place) :
    2 ^ place ≤ n * 2 ^ (place - n.log2) ∧ n * 2 ^ (place - n.log2) < 2 ^ (place + 1) := by
  constructor
  · calc 2 ^ place = 2 ^ n.log2 * 2 ^ (place - n.log2) := by rw [← Nat.pow_add]; congr 1; omega
      _ ≤ n * 2 ^ (place - n.log2) := Nat.mul_le_mul_right _ (Nat.log2_self_le positive.ne')
  · calc n * 2 ^ (place - n.log2) < 2 ^ (n.log2 + 1) * 2 ^ (place - n.log2) :=
          Nat.mul_lt_mul_of_pos_right Nat.lt_log2_self (Nat.two_pow_pos _)
      _ = 2 ^ (place + 1) := by rw [← Nat.pow_add]; congr 1; omega

/-- The last place of a whole number that is rounded lies 52 places behind the first one. -/
private theorem unitExponent_whole (positive : 0 < n) (small : n < 2 ^ 53) :
    unitExponent n 1 = (n.log2 : Int) - 52 := by
  have places : n.log2 < 53 := (Nat.log2_lt positive.ne').mpr small
  have guess : max ((n.log2 : Int) - Nat.log2 1 - 53) (-1074) = (n.log2 : Int) - 53 := by
    have one : Nat.log2 1 = 0 := rfl
    omega
  have long : 2 ^ 53 ≤ scaledFloor n 1 ((n.log2 : Int) - 53) := by
    have up : (-((n.log2 : Int) - 53)).toNat = 53 - n.log2 := by omega
    have down : ((n.log2 : Int) - 53).toNat = 0 := by omega
    rw [scaledFloor, up, down]
    simpa using (le_mul_and_lt positive places.le).1
  simp only [unitExponent, guess]
  rw [if_neg (by omega)]
  omega

/-- A whole number is rounded to itself: its binary digits are the mantissa. -/
private theorem nearestBits_whole (positive : 0 < n) (small : n < 2 ^ 53) :
    nearestBits n 1 = (n.log2 + 1022) * 2 ^ 52 + n * 2 ^ (52 - n.log2) := by
  have places : n.log2 < 53 := (Nat.log2_lt positive.ne').mpr small
  have up : (-((n.log2 : Int) - 52)).toNat = 52 - n.log2 := by omega
  have down : ((n.log2 : Int) - 52).toNat = 0 := by omega
  have place : ((n.log2 : Int) - 52 + 1074).toNat = n.log2 + 1022 := by omega
  have unrounded (num : Nat) : roundHalfEven num 1 = num := by simp [roundHalfEven, Nat.mod_one]
  have short := (le_mul_and_lt positive (Nat.le_of_lt_succ places)).2
  simp only [nearestBits, unitExponent_whole positive small]
  rw [if_neg positive.ne', up, down, place, Nat.pow_zero, Nat.mul_one, unrounded, infinityBits]
  omega

/-- A whole number up to `2 ^ 53` is a double, with either sign. -/
theorem isExactly_ofRatio (negative : Bool) (small : n ≤ 2 ^ 53) :
    IsExactly (ofRatio negative n 1) ((if negative then -1 else 1) * n) := by
  rw [IsExactly, ofRatio]
  rcases n.eq_zero_or_pos with rfl | positive
  · cases negative <;> decide +kernel
  rcases small.eq_or_lt with rfl | small
  · cases negative <;> decide +kernel
  have places : n.log2 < 53 := (Nat.log2_lt positive.ne').mpr small
  obtain ⟨low, high⟩ := le_mul_and_lt positive (Nat.le_of_lt_succ places)
  have moved : ((n * 2 ^ (52 - n.log2) : ℕ) : ℚ) * 2 ^ (((n.log2 + 1022 : ℕ) : ℤ) - 1074) = n := by
    have back : ((n.log2 + 1022 : ℕ) : ℤ) - 1074 = -((52 - n.log2 : ℕ) : ℤ) := by omega
    rw [back, zpow_neg, zpow_natCast]
    push_cast
    exact mul_inv_cancel_right₀ (by positivity) _
  rw [nearestBits_whole positive small, ofFloat_ofSignedBits (by rw [infinityBits]; omega),
    ofBits_normal low high (by omega), Double.value?, moved]

/-- A whole number up to `2 ^ 53` on either side of zero is rounded to itself. -/
theorem isExactly_ofInt {n : Int} (small : n.natAbs ≤ 2 ^ 53) : IsExactly (ofInt n) n := by
  have exact := isExactly_ofRatio (decide (n < 0)) small
  have signed : (n : ℚ) = (if decide (n < 0) then -1 else 1) * (n.natAbs : ℚ) := by
    by_cases below : n < 0
    · rw [if_pos (decide_eq_true below), Nat.cast_natAbs, abs_of_neg below]
      push_cast
      ring
    · rw [if_neg (by simpa using below), Nat.cast_natAbs, abs_of_nonneg (by omega), one_mul]
  rw [signed]
  exact exact

/-- Rounding leaves whole numbers up to `2 ^ 53` on either side of zero as they are. -/
theorem nearestInt_of_le {n : Int} (small : n.natAbs ≤ 2 ^ 53) : nearestInt n = n := by
  rw [nearestInt, floor?_of_isExactly (isExactly_ofInt small), Int.floor_intCast, Option.getD_some]

/-! ## Digits -/

variable {cs : List Char} {i : Int}

/-- A whole number in decimal: at most one sign and at least one digit. -/
inductive WritesInt : Int → List Char → Prop
  | plain {digits : List Char} (isDigits : IsDigits digits) (nonempty : digits ≠ []) :
    WritesInt (Nat.ofDigitChars 10 digits 0) digits
  | plus {digits : List Char} (isDigits : IsDigits digits) (nonempty : digits ≠ []) :
    WritesInt (Nat.ofDigitChars 10 digits 0) ('+' :: digits)
  | minus {digits : List Char} (isDigits : IsDigits digits) (nonempty : digits ≠ []) :
    WritesInt (-(Nat.ofDigitChars 10 digits 0 : Int)) ('-' :: digits)

/-- Digits alone have neither point nor exponent. -/
private theorem readTail?_digits (isDigits : IsDigits cs) (nonempty : cs ≠ []) :
    Numeral.readTail? negative (cs.span isDigit).1 (cs.span isDigit).2 =
      some ⟨negative, cs, [], 0⟩ := by
  have whole : (cs ++ []).span isDigit = (cs, []) :=
    span_digits isDigits fun _ first ↦ nomatch first
  rw [List.append_nil] at whole
  rw [whole]
  simp [Numeral.readTail?, nonempty]

/-- The numeral of a whole number has the digits and the sign that are written. -/
theorem WritesInt.read?_eq (written : WritesInt i cs) :
    ∃ negative digits, Numeral.read? cs = some ⟨negative, digits, [], 0⟩ ∧
      i = (if negative then -1 else 1) * (digitsValue digits : Int) := by
  have value (digits : List Char) : Nat.ofDigitChars 10 digits 0 = digitsValue digits := rfl
  cases written with
  | plain isDigits nonempty =>
    refine ⟨false, cs, ?_, by simp [value]⟩
    have unsigned : takeSign cs = (false, cs) :=
      takeSign_of_unsigned fun c first ↦
        ne_sign_of_isDigit (isDigits c (List.mem_of_mem_head? first))
    rw [Numeral.read?, unsigned]
    exact readTail?_digits isDigits nonempty
  | plus isDigits nonempty =>
    exact ⟨false, _, readTail?_digits isDigits nonempty, by simp [value]⟩
  | minus isDigits nonempty =>
    exact ⟨true, _, readTail?_digits isDigits nonempty, by simp [value]⟩

/-- A whole number without point and exponent is rounded as such. -/
theorem Numeral.toFloat_whole {negative : Bool} {digits : List Char}
    (small : digitsValue digits ≤ 2 ^ 53) :
    toFloat ⟨negative, digits, [], 0⟩ = ofRatio negative (digitsValue digits) 1 := by
  have significand : significand ⟨negative, digits, [], 0⟩ = digitsValue digits := by
    rw [Numeral.significand, List.append_nil]
  have scale : scale ⟨negative, digits, [], 0⟩ = 0 := rfl
  have short : digitCount (digitsValue digits) ≤ 16 :=
    (Nat.length_toDigits_le_iff (by decide) (by decide)).mpr (by omega)
  rw [toFloat, significand, scale]
  by_cases zero : digitsValue digits = 0
  · rw [zero]
    rfl
  · simp only
    rw [if_neg (by omega), if_neg (by omega)]
    simp [tenPower]

/-- The digits of a whole number up to `2 ^ 53` on either side of zero are read as the number. -/
theorem WritesInt.exists_float (written : WritesInt i cs) (small : i.natAbs ≤ 2 ^ 53) :
    ∃ x, floatOfChars? cs = some x ∧ IsExactly x i := by
  obtain ⟨negative, digits, read, rfl⟩ := written.read?_eq
  have few : digitsValue digits ≤ 2 ^ 53 := by
    cases negative <;> simpa using small
  refine ⟨_, by rw [floatOfChars?, read, Option.map_some], ?_⟩
  rw [Numeral.toFloat_whole few]
  have exact := isExactly_ofRatio negative few
  cases negative <;> simpa using exact

end Teletype.Decimal
