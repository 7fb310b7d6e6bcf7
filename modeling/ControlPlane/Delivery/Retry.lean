import ControlPlane.Duration

/-!
# Retrying

A failed delivery is tried again after a pause that doubles with every failure, up to a longest
pause, until a bound on the number of attempts is met.

## Main definitions

- `RetryPolicy`: the bound and the pauses.
- `RetryPolicy.backoff`: the pause after a number of failures.
- `RetryPolicy.allowsRetry`: whether one more attempt may be made.
-/

namespace ControlPlane

/-- How often a delivery is tried, and how long the pauses in between are. -/
structure RetryPolicy where
  /-- The bound on the number of attempts; zero counts as one. -/
  maxAttempts : UInt32
  /-- The first pause. -/
  initial : Duration
  /-- The longest pause. -/
  longest : Duration
deriving DecidableEq

namespace RetryPolicy

/-- The policy that is used unless something else is set. -/
def standard : RetryPolicy := ⟨8, Duration.ofMillis 100, Duration.ofSecs 5⟩

/-- The policy with the given bounds and at least one attempt. -/
def atLeastOnce (maxAttempts : UInt32) (initial longest : Duration) : RetryPolicy :=
  ⟨if maxAttempts = 0 then 1 else maxAttempts, initial, longest⟩

/-- The number of attempts that may be made; the first one is never forbidden. -/
def allowed (p : RetryPolicy) : Nat := max 1 p.maxAttempts.toNat

theorem one_le_allowed (p : RetryPolicy) : 1 ≤ p.allowed := Nat.le_max_left ..

theorem allowed_lt (p : RetryPolicy) : p.allowed < UInt32.size := by
  have := p.maxAttempts.toNat_lt
  simp only [allowed, UInt32.size]
  omega

/-- Pauses stop doubling after this many failures beyond the first. -/
def doublings : Nat := 20

/-- The pause after `failures` failed attempts: the first pause, doubled for every failure beyond
the first, and no longer than the longest pause. -/
def backoff (p : RetryPolicy) (failures : Nat) : Duration :=
  (p.initial.scale (1 <<< min (failures - 1) doublings)).shorter p.longest

/-- Whether another attempt may follow after `attempts` have been made. -/
def allowsRetry (p : RetryPolicy) (attempts : Nat) : Bool := attempts < p.allowed

end RetryPolicy

end ControlPlane
