import Mathlib.Data.Rat.Floor
import Teletype.Reveal.Time
import Teletype.Text.Split
/-!
# Clocks

A countdown shows the seconds that are left, rounded up, as minutes and seconds of two digits each
at least. Different numbers of seconds show differently, so the clock stands at zero just when no
time is left, and what it shows never goes up again.
-/

namespace Teletype

/-! ## Rounding up -/

namespace Duration

variable {d : Duration} {n : Nat}

/-- The seconds in a span, rounded up, are the fewest that cover it. -/
theorem secondsUp_le_iff : d.secondsUp ≤ n ↔ d.nanos ≤ n * 1000000000 := by
  rw [secondsUp]
  split <;> omega

/-- There are no seconds in a span only if there is no time in it. -/
theorem secondsUp_eq_zero_iff : d.secondsUp = 0 ↔ d.nanos = 0 := by
  rw [← Nat.le_zero, secondsUp_le_iff, Nat.zero_mul, Nat.le_zero]

end Duration

namespace Countdown

variable {c : Countdown} {elapsed : Duration} {m n minutes seconds : Nat}

/-- The seconds left, rounded up, are the fewest that reach from the time elapsed to the end. -/
theorem secondsUp_remaining_le_iff :
    (c.remaining elapsed).secondsUp ≤ n ↔
      c.duration * 1000000000 ≤ n * 1000000000 + elapsed.nanos := by
  rw [Duration.secondsUp_le_iff]
  exact Nat.sub_le_iff_le_add

/-- The seconds left are those of the duration that have not elapsed, rounded up, and none once all
of them have. -/
theorem secondsUp_remaining (c : Countdown) (elapsed : Duration) :
    (c.remaining elapsed).secondsUp = ⌈(c.duration - elapsed.nanos / 10 ^ 9 : ℚ)⌉₊ := by
  refine eq_of_forall_ge_iff fun n ↦ ?_
  rw [secondsUp_remaining_le_iff, Nat.ceil_le, sub_le_iff_le_add, ← sub_le_iff_le_add',
    le_div_iff₀ (by positivity), sub_mul, sub_le_iff_le_add]
  norm_cast
  norm_num [Nat.add_comm]

/-- Time that elapses never adds to the seconds left. -/
theorem secondsUp_remaining_anti {earlier later : Duration} (le : earlier.nanos ≤ later.nanos) :
    (c.remaining later).secondsUp ≤ (c.remaining earlier).secondsUp := by
  have covered := secondsUp_remaining_le_iff.mp (le_refl (c.remaining earlier).secondsUp)
  exact secondsUp_remaining_le_iff.mpr (by omega)

/-! ## Digits -/

/-- The decimal digits of a number, with zeros in front to make them two at least. -/
def clockDigits (n : Nat) : List Char := List.leftpad 2 '0' (Nat.toDigits 10 n)

/-- Minutes and seconds are written with their digits on a clock. -/
theorem toList_twoDigits (n : Nat) : (Decimal.twoDigits n).toList = clockDigits n := by
  rw [Decimal.twoDigits, clockDigits, List.leftpad, Decimal.natText]
  by_cases single : n < 10
  · rw [if_pos single, Nat.toDigits_of_lt_base single]
    simp
  · have long : 2 ≤ (Nat.toDigits 10 n).length := by
      by_contra short
      have few := Nat.length_toDigits_le_iff (b := 10) (n := n) (k := 1) (by decide) (by decide)
      omega
    rw [if_neg single, Nat.sub_eq_zero_of_le long]
    simp

/-- The digits on a clock write the number. -/
theorem ofDigitChars_clockDigits (n : Nat) : Nat.ofDigitChars 10 (clockDigits n) 0 = n := by
  rw [clockDigits, List.leftpad, Nat.ofDigitChars_append, Nat.ofDigitChars_replicate_zero,
    Nat.mul_zero, Nat.ofDigitChars_ten_toDigits]

/-- No colon stands in the digits on a clock. -/
theorem colon_not_mem_clockDigits (n : Nat) : ':' ∉ clockDigits n := by
  intro mem
  rw [clockDigits, List.leftpad, List.mem_append] at mem
  rcases mem with zero | digit
  · exact absurd (List.eq_of_mem_replicate zero) (by decide)
  · exact absurd (Nat.isDigit_of_mem_toDigits (by decide) (by decide) digit) (by decide)

/-- Minutes and seconds can be told from a clock. -/
theorem clockDigits_inj {minutes' seconds' : Nat}
    (same : clockDigits minutes ++ ':' :: clockDigits seconds =
      clockDigits minutes' ++ ':' :: clockDigits seconds') :
    minutes = minutes' ∧ seconds = seconds' := by
  have split := Text.splitAtFirst_append (colon_not_mem_clockDigits minutes) (clockDigits seconds)
  rw [same, Text.splitAtFirst_append (colon_not_mem_clockDigits minutes')] at split
  obtain ⟨before, after⟩ := Prod.mk.inj (Option.some.inj split)
  constructor
  · rw [← ofDigitChars_clockDigits minutes, ← before, ofDigitChars_clockDigits]
  · rw [← ofDigitChars_clockDigits seconds, ← after, ofDigitChars_clockDigits]

/-! ## What is shown -/

/-- What a countdown displays after some time is the prompt with minutes and seconds behind it. -/
structure Shows (c : Countdown) (elapsed : Duration) (minutes seconds : Nat) : Prop where
  sexagesimal : seconds < 60
  text : (c.display elapsed).toList =
    c.prompt.toList ++ (clockDigits minutes ++ ':' :: clockDigits seconds)

/-- The minutes and seconds that are shown are those of the time left. -/
theorem shows_remaining (c : Countdown) (elapsed : Duration) :
    c.Shows elapsed ((c.remaining elapsed).secondsUp / 60)
      ((c.remaining elapsed).secondsUp % 60) where
  sexagesimal := Nat.mod_lt _ (by decide)
  text := by
    simp [display, clock, toList_twoDigits]

/-- What is shown are the seconds left. -/
theorem Shows.seconds_eq (shows : c.Shows elapsed minutes seconds) :
    60 * minutes + seconds = (c.remaining elapsed).secondsUp := by
  have same := shows.text.symm.trans (shows_remaining c elapsed).text
  obtain ⟨rfl, rfl⟩ := clockDigits_inj (List.append_cancel_left same)
  exact Nat.div_add_mod _ 60

/-- A clock stands at zero exactly when no time is left. -/
theorem display_zero_iff :
    c.display elapsed = c.prompt ++ "00:00" ↔ c.isExpired elapsed = true := by
  have expired_iff : c.isExpired elapsed = true ↔ (c.remaining elapsed).secondsUp = 0 := by
    rw [isExpired, beq_iff_eq, Duration.secondsUp_eq_zero_iff]
  have zero_iff : c.display elapsed = c.prompt ++ "00:00" ↔ c.Shows elapsed 0 0 := by
    rw [← String.toList_inj, String.toList_append]
    exact ⟨fun text ↦ ⟨by decide, text⟩, Shows.text⟩
  rw [zero_iff, expired_iff]
  constructor
  · intro shows
    exact shows.seconds_eq.symm
  · intro none
    have shows := shows_remaining c elapsed
    rwa [none] at shows

/-- A countdown displays its prompt with the minutes and seconds left behind it. They are rounded up
within 64 bits, stand at zero exactly when the countdown has expired, and never become more. -/
theorem display_is_clock (c : Countdown) (word : c.duration < 2 ^ 64) :
    (∀ elapsed, ∃ minutes seconds, c.Shows elapsed minutes seconds ∧
      60 * minutes + seconds = ⌈(c.duration - elapsed.nanos / 10 ^ 9 : ℚ)⌉₊ ∧
      60 * minutes + seconds < 2 ^ 64 ∧
      (c.display elapsed = c.prompt ++ "00:00" ↔ c.isExpired elapsed = true)) ∧
    ∀ earlier later : Duration, earlier.nanos ≤ later.nanos →
      ∀ minutes seconds minutes' seconds', c.Shows earlier minutes seconds →
        c.Shows later minutes' seconds' → 60 * minutes' + seconds' ≤ 60 * minutes + seconds := by
  constructor
  · intro elapsed
    have shows := shows_remaining c elapsed
    have few : (c.remaining elapsed).secondsUp ≤ c.duration :=
      secondsUp_remaining_le_iff.mpr (Nat.le_add_right _ _)
    refine ⟨_, _, shows, ?_, ?_, display_zero_iff⟩
    · rw [shows.seconds_eq, secondsUp_remaining]
    · rw [shows.seconds_eq]
      omega
  · intro earlier later le minutes seconds minutes' seconds' before after
    rw [before.seconds_eq, after.seconds_eq]
    exact secondsUp_remaining_anti le

/-- The longest countdown there is. -/
def longest : Countdown := { prompt := "T-MINUS ", duration := 2 ^ 64 - 1, options := {} }

/-- One nanosecond after its start, the longest countdown still displays all of its seconds. -/
theorem longest_shown :
    longest.duration < 2 ^ 64 ∧ ∃ minutes seconds, longest.Shows ⟨1⟩ minutes seconds ∧
      60 * minutes + seconds = 2 ^ 64 - 1 ∧
      (longest.display ⟨1⟩ = "T-MINUS " ++ "00:00" ↔ longest.isExpired ⟨1⟩ = true) := by
  obtain ⟨minutes, seconds, shows, left, -, zero⟩ := (display_is_clock longest (by decide)).1 ⟨1⟩
  refine ⟨by decide, minutes, seconds, shows, ?_, zero⟩
  rw [left, Nat.ceil_eq_iff (by decide)]
  norm_num [longest]

end Countdown

end Teletype
