import Mathlib.Data.ENat.Lattice
import ControlPlane.Outcome
import ControlPlane.Proofs.Delivery.Protocol

/-!
# The attempts of a delivery

A delivery tries again after every failure, as often as its policy allows, and pauses in between.
How often it tries depends on nothing but the outcomes of the attempts, whatever the channel is and
whatever the policy says.

## Main definitions

- `Channel.stateAfter`, `Channel.outcomeAfter`: the channel after so many failures, and the outcome
  of the next attempt then.
- `leadingFailures`: the number of failures before the first success.
- `Channel.watched`: a channel of which every use is written down.
- `Channel.deliverWord`: the delivery loop with its counter in a machine word.
- `Channel.Course`: the course of a delivery.

## Main statements

- `RetryPolicy.backoff_mono`: pauses do not get shorter.
- `Channel.deliver_of_success`, `Channel.deliver_of_failures`: what a delivery comes to.
- `Channel.course_of_delivery`: the course of every delivery.
-/

namespace ControlPlane

namespace RetryPolicy

/-- Pauses do not get shorter. -/
theorem backoff_mono (p : RetryPolicy) {m n : Nat} (h : m ≤ n) :
    (p.backoff m).nanos ≤ (p.backoff n).nanos := by
  have hshift : 1 <<< min (m - 1) doublings ≤ 1 <<< min (n - 1) doublings := by
    rw [Nat.one_shiftLeft, Nat.one_shiftLeft]
    exact Nat.pow_le_pow_right (by decide) (by omega)
  have hscale := Nat.mul_le_mul_left p.initial.nanos hshift
  simp only [backoff, Duration.nanos_shorter, Duration.nanos_scale]
  omega

/-- No pause is longer than the longest one. -/
theorem backoff_le_longest (p : RetryPolicy) (n : Nat) : (p.backoff n).nanos ≤ p.longest.nanos := by
  rw [backoff, Duration.nanos_shorter]
  exact Nat.min_le_right ..

variable {p : RetryPolicy} {kind : MessageKind} {endpoint : String} {attempts : Nat}

theorem verdict_ok : p.verdict kind endpoint attempts (.ok ()) = .delivered attempts := rfl

/-- A failure is followed by a pause while more attempts are allowed. -/
theorem verdict_error_of_lt (e : ChannelError) (h : attempts < p.allowed) :
    p.verdict kind endpoint attempts (.error e) = .retry (p.backoff attempts) :=
  if_pos (by simpa [allowsRetry] using h)

/-- The failure of the last attempt that is allowed ends the delivery. -/
theorem verdict_error_of_le (e : ChannelError) (h : p.allowed ≤ attempts) :
    p.verdict kind endpoint attempts (.error e) = .failed (.gaveUp kind endpoint attempts e) :=
  if_neg (by simpa [allowsRetry] using h)

end RetryPolicy

/-! ## Outcomes -/

/-- The number of failures before the first success; it is infinite if there is no success. -/
noncomputable def leadingFailures (outcomes : Nat → Except ChannelError Unit) : ℕ∞ :=
  open Classical in if h : ∃ n, outcomes n = .ok () then (Nat.find h : ℕ∞) else ⊤

section LeadingFailures

variable {outcomes : Nat → Except ChannelError Unit}

theorem leadingFailures_eq {k : Nat} (hfail : ∀ i < k, outcomes i ≠ .ok ())
    (hok : outcomes k = .ok ()) : leadingFailures outcomes = k := by
  classical
  have hsome : ∃ n, outcomes n = .ok () := ⟨k, hok⟩
  rw [leadingFailures, dif_pos hsome]
  exact congrArg _ ((Nat.find_eq_iff hsome).2 ⟨hok, hfail⟩)

theorem le_leadingFailures {n : Nat} (hfail : ∀ i < n, outcomes i ≠ .ok ()) :
    (n : ℕ∞) ≤ leadingFailures outcomes := by
  classical
  by_cases hsome : ∃ k, outcomes k = .ok ()
  · rw [leadingFailures, dif_pos hsome, Nat.cast_le, Nat.le_find_iff]
    exact hfail
  · rw [leadingFailures, dif_neg hsome]
    exact le_top

/-- Among so many outcomes there is a first success, or all are failures. -/
theorem first_success_or (outcomes : Nat → Except ChannelError Unit) (n : Nat) :
    (∃ k < n, (∀ i < k, outcomes i ≠ .ok ()) ∧ outcomes k = .ok ()) ∨
      ∀ i < n, outcomes i ≠ .ok () := by
  by_cases hsome : ∃ k < n, outcomes k = .ok ()
  · have hfind := Nat.find_spec hsome
    refine .inl ⟨Nat.find hsome, hfind.1, fun i hi hok => ?_, hfind.2⟩
    exact Nat.find_min hsome hi ⟨Nat.lt_trans hi hfind.1, hok⟩
  · exact .inr fun i hi hok => hsome ⟨i, hi, hok⟩

theorem exists_error_of_ne_ok {outcome : Except ChannelError Unit} (h : outcome ≠ .ok ()) :
    ∃ e, outcome = .error e := by
  cases outcome with
  | ok u => exact absurd rfl h
  | error e => exact ⟨e, rfl⟩

end LeadingFailures

namespace Channel

variable {σ : Type} (c : Channel σ) (p : RetryPolicy) (kind : MessageKind) (frame : List UInt8)
  (s : σ)

/-- The state behind a channel after so many failed attempts, each of them with its pause. -/
def stateAfter : Nat → σ
  | 0 => s
  | n + 1 => c.pause (p.backoff (n + 1)) (c.attempt frame (stateAfter n)).2

/-- The outcome of the attempt that follows so many failed ones. -/
def outcomeAfter (n : Nat) : Except ChannelError Unit :=
  (c.attempt frame (c.stateAfter p frame s n)).1

/-! ## What a delivery comes to -/

/-- A delivery gets past attempts that fail while more are allowed. -/
theorem deliver_of_pending {n : Nat} (hn : n < p.allowed)
    (hfail : ∀ i < n, c.outcomeAfter p frame s i ≠ .ok ()) :
    c.deliver p kind frame s = c.deliverFrom p kind frame n (c.stateAfter p frame s n) := by
  induction n with
  | zero => rfl
  | succ n ih =>
    -- The loop has come to the last of these attempts, which fails while another one is allowed.
    obtain ⟨e, he⟩ := exists_error_of_ne_ok (hfail n (Nat.lt_succ_self n))
    rw [ih (Nat.lt_of_succ_lt hn) fun i hi => hfail i (Nat.lt_succ_of_lt hi), deliverFrom_eq]
    rw [outcomeAfter] at he
    simp only [he, RetryPolicy.verdict_error_of_lt e hn, stateAfter]

/-- A delivery ends with the first success. -/
theorem deliver_of_success {k : Nat} (hk : k < p.allowed)
    (hfail : ∀ i < k, c.outcomeAfter p frame s i ≠ .ok ())
    (hok : c.outcomeAfter p frame s k = .ok ()) :
    c.deliver p kind frame s =
      (.ok (k + 1), (c.attempt frame (c.stateAfter p frame s k)).2) := by
  rw [c.deliver_of_pending p kind frame s hk hfail, deliverFrom_eq]
  rw [outcomeAfter] at hok
  simp only [hok, RetryPolicy.verdict_ok]

/-- A delivery is given up when all attempts that are allowed have failed. -/
theorem deliver_of_failures (hfail : ∀ i < p.allowed, c.outcomeAfter p frame s i ≠ .ok ()) :
    ∃ e, c.outcomeAfter p frame s (p.allowed - 1) = .error e ∧
      c.deliver p kind frame s = (.error (.gaveUp kind c.endpoint p.allowed e),
        (c.attempt frame (c.stateAfter p frame s (p.allowed - 1))).2) := by
  have hone := p.one_le_allowed
  have hlast : p.allowed - 1 < p.allowed := by omega
  have hcount : p.allowed - 1 + 1 = p.allowed := by omega
  obtain ⟨e, he⟩ := exists_error_of_ne_ok (hfail _ hlast)
  refine ⟨e, he, ?_⟩
  rw [c.deliver_of_pending p kind frame s hlast fun i hi => hfail i (Nat.lt_trans hi hlast),
    deliverFrom_eq]
  rw [outcomeAfter] at he
  simp only [he, hcount, RetryPolicy.verdict_error_of_le e (Nat.le_refl _)]

/-! ## The channel under observation -/

/-- A use of a channel. -/
inductive Use
  | attempt (frame : List UInt8)
  | pause (d : Duration)
deriving DecidableEq

/-- The channel, with all uses of it written down. -/
def watched : Channel (σ × List Use) where
  endpoint := c.endpoint
  attempt frame s :=
    ((c.attempt frame s.1).1, (c.attempt frame s.1).2, s.2 ++ [.attempt frame])
  pause d s := (c.pause d s.1, s.2 ++ [.pause d])

/-- So many attempts, all but the last one with the pause that follows it. -/
def rounds (n : Nat) : List Use :=
  ((List.range (n - 1)).flatMap fun i => [.attempt frame, .pause (p.backoff (i + 1))]) ++
    [.attempt frame]

theorem stateAfter_watched (log : List Use) (n : Nat) :
    c.watched.stateAfter p frame (s, log) n = (c.stateAfter p frame s n,
      log ++ (List.range n).flatMap fun i => [.attempt frame, .pause (p.backoff (i + 1))]) := by
  induction n with
  | zero => simp [stateAfter]
  | succ n ih =>
    rw [stateAfter, ih, List.range_succ, List.flatMap_append]
    simp [watched, stateAfter]

theorem outcomeAfter_watched (log : List Use) :
    c.watched.outcomeAfter p frame (s, log) = c.outcomeAfter p frame s := by
  funext n
  rw [outcomeAfter, stateAfter_watched]
  rfl

theorem attempt_watched (log : List Use) (n : Nat) :
    (c.watched.attempt frame (c.watched.stateAfter p frame (s, log) n)).2 =
      ((c.attempt frame (c.stateAfter p frame s n)).2, log ++ rounds p frame (n + 1)) := by
  rw [stateAfter_watched]
  simp [watched, rounds]

/-! ## The counter -/

/-- The delivery loop with its counter in a word of 32 bits, for at most so many rounds. There is no
result if the rounds do not suffice, or if the counter would pass its word. -/
def deliverWord : (rounds : Nat) → (attempts : UInt32) → σ →
    Option (Except DistributorError Nat × σ)
  | 0, _, _ => none
  | rounds + 1, attempts, s =>
    if attempts.toNat + 1 < UInt32.size then
      let attempts := attempts + 1
      match p.verdict kind c.endpoint attempts.toNat (c.attempt frame s).1 with
      | .delivered n => some (.ok n, (c.attempt frame s).2)
      | .failed e => some (.error e, (c.attempt frame s).2)
      | .retry pause => deliverWord rounds attempts (c.pause pause (c.attempt frame s).2)
    else none

/-- As many rounds as attempts are allowed suffice, and they do not fill the counter. -/
theorem deliverWord_eq (rounds : Nat) (attempts : UInt32)
    (hrounds : attempts.toNat + rounds = p.allowed) (hpos : 0 < rounds) :
    c.deliverWord p kind frame rounds attempts s =
      some (c.deliverFrom p kind frame attempts.toNat s) := by
  induction rounds generalizing attempts s with
  | zero => exact absurd hpos (Nat.lt_irrefl 0)
  | succ rounds ih =>
    -- As many rounds are left as attempts, and all attempts together do not fill a word.
    have hroom : attempts.toNat + 1 < UInt32.size := by
      have := p.allowed_lt
      omega
    have hnext : (attempts + 1).toNat = attempts.toNat + 1 := by
      rw [UInt32.toNat_add]
      exact Nat.mod_eq_of_lt hroom
    rw [deliverFrom_eq, deliverWord, if_pos hroom]
    dsimp only
    rw [hnext]
    cases hv : p.verdict kind c.endpoint (attempts.toNat + 1) (c.attempt frame s).1 with
    | delivered n => rfl
    | failed e => rfl
    | retry pause =>
      have hmore := RetryPolicy.lt_allowed_of_verdict hv
      dsimp only
      rw [ih _ (attempts + 1) (by omega) (by omega), hnext]

/-! ## The course of a delivery -/

/-- The course of a delivery that makes `n` attempts. -/
structure Course (n : Nat) : Prop where
  /-- It ends with the first success, or when no more attempts are allowed. -/
  attempts : (n : ℕ∞) =
    min (leadingFailures (c.outcomeAfter p frame s) + 1) ((max 1 p.maxAttempts.toNat : Nat) : ℕ∞)
  /-- All attempts are made with the same frame, and between them are the pauses of the policy in
  their order. -/
  uses : ∀ log, c.watched.deliver p kind frame (s, log) =
    ((c.deliver p kind frame s).1, (c.deliver p kind frame s).2, log ++ rounds p frame n)
  ok_iff : (∃ k, (c.deliver p kind frame s).1 = .ok k) ↔
    leadingFailures (c.outcomeAfter p frame s) < (max 1 p.maxAttempts.toNat : Nat)
  delivered : leadingFailures (c.outcomeAfter p frame s) < (max 1 p.maxAttempts.toNat : Nat) →
    (c.deliver p kind frame s).1 = .ok n ∧
      (n : ℕ∞) = leadingFailures (c.outcomeAfter p frame s) + 1
  gaveUp : (max 1 p.maxAttempts.toNat : Nat) ≤ leadingFailures (c.outcomeAfter p frame s) →
    n = max 1 p.maxAttempts.toNat ∧ ∃ e, c.outcomeAfter p frame s (n - 1) = .error e ∧
      (c.deliver p kind frame s).1 = .error (.gaveUp kind c.endpoint n e)
  /-- The loop ends within so many rounds, and its counter stays within its word. -/
  counter : n < UInt32.size ∧
    c.deliverWord p kind frame (max 1 p.maxAttempts.toNat) 0 s = some (c.deliver p kind frame s)
  /-- Pauses do not get shorter, and none is longer than the longest one. -/
  pauses : ∀ i j, i ≤ j → (p.backoff i).nanos ≤ (p.backoff j).nanos ∧
    (p.backoff j).nanos ≤ p.longest.nanos

/-- The attempts, the pauses and the result of every delivery: over any channel, with any policy,
and whatever the outcomes of the attempts are. -/
theorem course_of_delivery : ∃ n, c.Course p kind frame s n := by
  have hcounter : c.deliverWord p kind frame p.allowed 0 s = some (c.deliver p kind frame s) :=
    c.deliverWord_eq p kind frame s p.allowed 0 (Nat.zero_add _) p.one_le_allowed
  have hpauses : ∀ i j, i ≤ j → (p.backoff i).nanos ≤ (p.backoff j).nanos ∧
      (p.backoff j).nanos ≤ p.longest.nanos :=
    fun i j hij => ⟨p.backoff_mono hij, p.backoff_le_longest j⟩
  rcases first_success_or (c.outcomeAfter p frame s) p.allowed with ⟨k, hk, hfail, hok⟩ | hfail
  -- An attempt that is allowed succeeds, after `k` failures.
  · have hfailures : leadingFailures (c.outcomeAfter p frame s) = k := leadingFailures_eq hfail hok
    have hdeliver := c.deliver_of_success p kind frame s hk hfail hok
    have hlt : leadingFailures (c.outcomeAfter p frame s) < (p.allowed : ℕ∞) := by
      rw [hfailures]
      exact_mod_cast hk
    have hsum : ((k + 1 : Nat) : ℕ∞) = leadingFailures (c.outcomeAfter p frame s) + 1 := by
      rw [hfailures]
      rfl
    refine ⟨k + 1, ?_, fun log => ?_, ?_, fun _ => ⟨congrArg Prod.fst hdeliver, hsum⟩,
      fun hle => absurd hlt (not_lt.2 hle), ⟨?_, hcounter⟩, hpauses⟩
    · rw [← hsum]
      exact (min_eq_left (by exact_mod_cast hk)).symm
    · rw [hdeliver, c.watched.deliver_of_success p kind frame (s, log) hk
        (by rwa [outcomeAfter_watched]) (by rwa [outcomeAfter_watched]), attempt_watched]
    · exact ⟨fun _ => hlt, fun _ => ⟨k + 1, congrArg Prod.fst hdeliver⟩⟩
    · exact Nat.lt_of_le_of_lt hk p.allowed_lt
  -- All attempts that are allowed fail.
  · obtain ⟨e, he, hdeliver⟩ := c.deliver_of_failures p kind frame s hfail
    have hle : (p.allowed : ℕ∞) ≤ leadingFailures (c.outcomeAfter p frame s) :=
      le_leadingFailures hfail
    have hcount : p.allowed - 1 + 1 = p.allowed := Nat.sub_add_cancel p.one_le_allowed
    refine ⟨p.allowed, ?_, fun log => ?_, ?_, fun hlt => absurd hlt (not_lt.2 hle),
      fun _ => ⟨rfl, e, he, congrArg Prod.fst hdeliver⟩, ⟨p.allowed_lt, hcounter⟩, hpauses⟩
    · exact (min_eq_right (hle.trans le_self_add)).symm
    · obtain ⟨e', he', hwatched⟩ := c.watched.deliver_of_failures p kind frame (s, log)
        (by rwa [outcomeAfter_watched])
      rw [outcomeAfter_watched, he] at he'
      cases he'
      rw [hdeliver, hwatched, attempt_watched, hcount]
      rfl
    · refine ⟨fun ⟨k, hk⟩ => ?_, fun hlt => absurd hlt (not_lt.2 hle)⟩
      rw [hdeliver] at hk
      cases hk

end Channel

end ControlPlane
