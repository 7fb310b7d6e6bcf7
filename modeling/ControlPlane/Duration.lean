/-!
# Durations

A length of time in whole nanoseconds. The seconds of a duration fill 64 bits, so there is a
longest one; arithmetic that would pass it stops there.

## Main definitions

- `Duration`: a length of time with its bound.
- `Duration.scale`: multiplication that stops at the longest duration.
- `Duration.slept`: how much of a duration a sleep lasts.
- `Duration.text`: the shortest exact text, in the largest unit that is not larger than the value.
-/

namespace ControlPlane

/-- A length of time of fewer than `2 ^ 64` seconds, in whole nanoseconds. -/
structure Duration where
  /-- The whole length in nanoseconds. -/
  nanos : Nat
  nanos_lt : nanos < UInt64.size * 1000000000
deriving DecidableEq

namespace Duration

/-- The number of nanoseconds in the longest duration. -/
def longestNanos : Nat := UInt64.size * 1000000000 - 1

/-- The duration of `n` nanoseconds, or the longest one if `n` passes it. -/
def ofNanos (n : Nat) : Duration :=
  ⟨min n longestNanos, by simp only [longestNanos, UInt64.size]; omega⟩

/-- `secs` seconds and `nanos` nanoseconds. -/
def ofParts (secs nanos : Nat) : Duration := ofNanos (secs * 1000000000 + nanos)

/-- `n` whole seconds. -/
def ofSecs (n : Nat) : Duration := ofNanos (n * 1000000000)

/-- `n` whole milliseconds. -/
def ofMillis (n : Nat) : Duration := ofNanos (n * 1000000)

/-- The longest duration. -/
def longest : Duration := ofNanos longestNanos

/-- The whole seconds of a duration. -/
def secs (d : Duration) : Nat := d.nanos / 1000000000

/-- What a duration has beyond its whole seconds, in nanoseconds. -/
def subsecNanos (d : Duration) : Nat := d.nanos % 1000000000

/-- The whole milliseconds of a duration. -/
def millis (d : Duration) : Nat := d.nanos / 1000000

/-- `k` times `d`, or the longest duration if the product passes it. -/
def scale (d : Duration) (k : Nat) : Duration := ofNanos (d.nanos * k)

/-- The shorter of two durations. -/
def shorter (d e : Duration) : Duration := if d.nanos ≤ e.nanos then d else e

/-- The longest time that a sleep lasts: thirty years of 365 days. -/
def longestSleep : Duration := ofSecs (30 * 365 * 86400)

/-- How long a sleep lasts that is meant to last `d`. -/
def slept (d : Duration) : Duration := d.shorter longestSleep

theorem nanos_le_longest (d : Duration) : d.nanos ≤ longestNanos := by
  have := d.nanos_lt
  simp only [longestNanos, UInt64.size] at this ⊢
  omega

@[simp] theorem nanos_ofNanos (n : Nat) : (ofNanos n).nanos = min n longestNanos := rfl

theorem nanos_scale (d : Duration) (k : Nat) :
    (d.scale k).nanos = min (d.nanos * k) longestNanos := rfl

theorem nanos_shorter (d e : Duration) : (d.shorter e).nanos = min d.nanos e.nanos := by
  unfold shorter
  split <;> omega

/-- The digits of `value / 10 ^ places` after the point, without trailing zeros. -/
def fractionDigits (value places : Nat) : List Char :=
  let digits := Nat.toDigits 10 (value % Nat.pow 10 places)
  let padded := List.replicate (places - digits.length) '0' ++ digits
  (padded.reverse.dropWhile (· == '0')).reverse

/-- `value / 10 ^ places`, exactly; the point is left out of a whole number. -/
def exactText (value places : Nat) : String :=
  let whole := toString (value / Nat.pow 10 places)
  match fractionDigits value places with
  | [] => whole
  | digits => whole ++ "." ++ String.ofList digits

/-- The exact length in the largest unit that is not larger than it. -/
def text (d : Duration) : String :=
  if 1000000000 ≤ d.nanos then exactText d.nanos 9 ++ "s"
  else if 1000000 ≤ d.nanos then exactText d.nanos 6 ++ "ms"
  else if 1000 ≤ d.nanos then exactText d.nanos 3 ++ "µs"
  else toString d.nanos ++ "ns"

end Duration

end ControlPlane
