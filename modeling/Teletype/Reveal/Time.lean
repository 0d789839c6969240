import Teletype.Content.Basic
import Teletype.Decimal.Layout
/-!
# Time

Spans of time are whole nanoseconds up to a greatest span, at which adding stops. Countdowns show
what is left of their time as a clock.
-/

namespace Teletype

/-- A span of time in nanoseconds. -/
structure Duration where
  nanos : Nat
  deriving DecidableEq, Repr

namespace Duration

/-- No time. -/
def zero : Duration := ⟨0⟩

/-- The greatest span: all but a second more than the most seconds that 64 bits hold. -/
def most : Duration := ⟨2 ^ 64 * 1000000000 - 1⟩

/-- Whole milliseconds. -/
def ofMillis (ms : Nat) : Duration := ⟨ms * 1000000⟩

/-- Whole seconds. -/
def ofSeconds (s : Nat) : Duration := ⟨s * 1000000000⟩

/-- The whole milliseconds in a span. -/
def millis (d : Duration) : Nat := d.nanos / 1000000

/-- Both spans, as far as the greatest one. -/
def add (a b : Duration) : Duration := ⟨min (a.nanos + b.nanos) most.nanos⟩

/-- What is left of a span. -/
def sub (a b : Duration) : Duration := ⟨a.nanos - b.nanos⟩

/-- The seconds in a span, a part of one counting in full. -/
def secondsUp (d : Duration) : Nat :=
  d.nanos / 1000000000 + if d.nanos % 1000000000 = 0 then 0 else 1

end Duration

namespace Countdown

/-- The time a countdown starts with. -/
def total (c : Countdown) : Duration := .ofSeconds c.duration

/-- The time left. -/
def remaining (c : Countdown) (elapsed : Duration) : Duration := c.total.sub elapsed

/-- Whether no time is left. -/
def isExpired (c : Countdown) (elapsed : Duration) : Bool := (c.remaining elapsed).nanos == 0

/-- Minutes and seconds, two digits each at least. -/
def clock (seconds : Nat) : String :=
  Decimal.twoDigits (seconds / 60) ++ ":" ++ Decimal.twoDigits (seconds % 60)

/-- The prompt and the time left. -/
def display (c : Countdown) (elapsed : Duration) : String :=
  c.prompt ++ clock (c.remaining elapsed).secondsUp

end Countdown

end Teletype
