import ControlPlane.Config.File
import ControlPlane.Orchestration.Plan
import Mathlib.Algebra.Group.Nat.Defs

/-!
# The length of pauses

The pause after a failed attempt is to be the first pause, doubled for every failure beyond the
first, but no longer than the longest pause. Neither the bound of durations nor that of the factor
ever shows in a pause. The bound on the number of doublings does: a pause that has been doubled so
often stays as it is, however far it still is from the longest one.

## Main definitions

- `RetryPolicy.exactPause`: the pause that is to be, in exact nanoseconds.

## Main statements

- `RetryPolicy.nanos_backoff`: the pause that is made.
- `RetryPolicy.pauses_double`: when the pause that is made is the one that is to be.
- `RetryPolicy.pause_stays`: a policy from a configuration file under which it is not.
-/

namespace ControlPlane.RetryPolicy

/-- The first pause, doubled for every failure beyond the first, but no longer than the longest
pause; in nanoseconds, of which there may be any number. -/
def exactPause (p : RetryPolicy) (failures : Nat) : Nat :=
  min (p.initial.nanos * 2 ^ (failures - 1)) p.longest.nanos

variable (p : RetryPolicy) (failures : Nat)

theorem factor_lt : 2 ^ min (failures - 1) doublings < UInt32.size :=
  calc 2 ^ min (failures - 1) doublings ≤ 2 ^ doublings :=
        Nat.pow_le_pow_right (by decide) (Nat.min_le_right ..)
    _ < UInt32.size := by decide

/-- The bound of durations is not below the longest pause, so it does not show. -/
theorem nanos_backoff : (p.backoff failures).nanos =
    min (p.initial.nanos * 2 ^ min (failures - 1) doublings) p.longest.nanos := by
  have hlongest := p.longest.nanos_le_longest
  rw [backoff, Duration.nanos_shorter, Duration.nanos_scale, Nat.one_shiftLeft]
  omega

/-- While all doublings are made, the pause is the one that is to be. -/
theorem nanos_backoff_of_le {failures : Nat} (h : failures ≤ doublings + 1) :
    (p.backoff failures).nanos = p.exactPause failures := by
  have hall : min (failures - 1) doublings = failures - 1 := Nat.min_eq_left (by omega)
  rw [nanos_backoff, hall, exactPause]

/-- A larger factor makes no difference below a bound just if there is nothing to multiply, or the
smaller one meets the bound. -/
theorem min_mul_eq_min_mul_iff {a bound small large : Nat} (h : small < large) :
    min (a * small) bound = min (a * large) bound ↔ a = 0 ∨ bound ≤ a * small := by
  rcases Nat.eq_zero_or_pos a with rfl | hpos
  · simp
  · have hmore : a * small < a * large := Nat.mul_lt_mul_of_pos_left h hpos
    omega

theorem nanos_backoff_eq_iff_of_lt {failures : Nat} (h : doublings + 1 < failures) :
    (p.backoff failures).nanos = p.exactPause failures ↔
      p.initial.nanos = 0 ∨ p.longest.nanos ≤ p.initial.nanos * 2 ^ doublings := by
  have hbound : min (failures - 1) doublings = doublings := Nat.min_eq_right (by omega)
  have hmore : 2 ^ doublings < 2 ^ (failures - 1) :=
    Nat.pow_lt_pow_right (by decide) (by omega)
  rw [nanos_backoff, hbound, exactPause, min_mul_eq_min_mul_iff hmore]

/-- The length of every pause, in exact nanoseconds and with a factor that fits into its word. It is
the one that is to be just if no doubling was left out, or there is nothing to double, or the
longest pause is met without those that were left out. -/
theorem pauses_double :
    (p.backoff failures).nanos =
        min (p.initial.nanos * 2 ^ min (failures - 1) 20) p.longest.nanos ∧
      2 ^ min (failures - 1) 20 < UInt32.size ∧
      ((p.backoff failures).nanos = p.exactPause failures ↔
        failures ≤ 21 ∨ p.initial.nanos = 0 ∨ p.longest.nanos ≤ p.initial.nanos * 2 ^ 20) := by
  refine ⟨p.nanos_backoff failures, factor_lt failures, ?_⟩
  rcases Nat.lt_or_ge (doublings + 1) failures with hlt | hle
  · rw [p.nanos_backoff_eq_iff_of_lt hlt]
    have hnot : ¬failures ≤ 21 := Nat.not_le.mpr hlt
    simp only [hnot, false_or, doublings]
  · have hsome : failures ≤ 21 := hle
    simp only [p.nanos_backoff_of_le hle, hsome, true_or]

/-- A configuration file that asks for many attempts, with pauses of up to an hour. -/
def patientFile : String :=
  "[distributor]\nmax_attempts = 64\ninitial_backoff_ms = 1\nmax_backoff_ms = 3600000\n"

def patientSettings : Settings :=
  { Settings.standard (some (.ofText "/home/sonata")) with
    maxAttempts := 64, initialBackoffMs := 1, maxBackoffMs := 3600000 }

/-- The pauses of that file are to come to an hour, and stay at less than eighteen minutes. -/
theorem pause_stays :
    ∃ s,
      Settings.load (some (.ofText "/home/sonata")) (some (.ok (Text.utf8 patientFile))) = .ok s ∧
      let p := (Plan.ofSettings s).retry
      p.allowsRetry 23 = true ∧ p.exactPause 23 = 3600 * 10 ^ 9 ∧
        (p.backoff 23).nanos = 1048576 * 10 ^ 6 ∧ (p.backoff 23).nanos ≠ p.exactPause 23 := by
  have hload : Settings.load (some (.ofText "/home/sonata"))
      (some (.ok (Text.utf8 patientFile))) = .ok patientSettings := by
    decide +kernel
  exact ⟨patientSettings, hload, by decide, by decide, by decide, by decide⟩

end ControlPlane.RetryPolicy
