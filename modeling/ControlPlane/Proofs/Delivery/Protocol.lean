import ControlPlane.Delivery.Recording
import Mathlib.Data.List.Basic

/-!
# The protocol towards the managers

The fabric manager receives one initial configuration and then changes, or nothing at all; the
streaming manager receives whole configurations. What a distributor remembers tells exactly what
the managers have received, however the attempts to deliver turn out.

## Main definitions

- `Distributor.Accounts`: how a distributor stands to the messages that were delivered.
- `Channel.HandsOver`: a channel whose successful attempts hand over the frame, and whose failed
  attempts hand over nothing.
- `Session`: a distributor after calls, with what was answered to each.

## Main statements

- `Distributor.Accounts.deliver`, `Distributor.Accounts.giveUp`: what one message preserves.
- `Channel.HandsOver.deliverFrom`: what the delivery loop comes to.
- `Session.protocol_of_calls`: the protocol is kept by any calls.
-/

namespace ControlPlane

/-- The messages that are for the fabric manager, in order. -/
def forFabric (messages : List Outgoing) : List Outgoing :=
  messages.filter fun o => !o.isForStreaming

/-- The messages that are for the streaming manager, in order. -/
def forStreaming (messages : List Outgoing) : List Outgoing :=
  messages.filter fun o => o.isForStreaming

@[simp] theorem forFabric_append (xs ys : List Outgoing) :
    forFabric (xs ++ ys) = forFabric xs ++ forFabric ys := List.filter_append ..

@[simp] theorem forStreaming_append (xs ys : List Outgoing) :
    forStreaming (xs ++ ys) = forStreaming xs ++ forStreaming ys := List.filter_append ..

@[simp] theorem forFabric_init (queries : List CompiledQuery) :
    forFabric [.init queries] = [.init queries] := rfl

@[simp] theorem forFabric_delta (content : DeltaContent) :
    forFabric [.delta content] = [.delta content] := rfl

@[simp] theorem forFabric_streamConfig (queries : List CompiledQuery) :
    forFabric [.streamConfig queries] = [] := rfl

@[simp] theorem forStreaming_init (queries : List CompiledQuery) :
    forStreaming [.init queries] = [] := rfl

@[simp] theorem forStreaming_delta (content : DeltaContent) :
    forStreaming [.delta content] = [] := rfl

@[simp] theorem forStreaming_streamConfig (queries : List CompiledQuery) :
    forStreaming [.streamConfig queries] = [.streamConfig queries] := rfl

/-- One initial configuration, and then changes only. -/
def InitThenDeltas (messages : List Outgoing) : Prop :=
  ∃ (queries : List CompiledQuery) (changes : List DeltaContent),
    messages = .init queries :: changes.map .delta

namespace Distributor

/-- The initial configuration is permitted only before any other. -/
theorem permit_init_iff {d : Distributor} {queries : List CompiledQuery} :
    d.permit (.init queries) = .ok () ↔ d.initial = .pending := by
  simp only [permit]
  split <;> simp_all

/-- Changes are permitted only after the initial configuration. -/
theorem permit_delta_iff {d : Distributor} {content : DeltaContent} :
    d.permit (.delta content) = .ok () ↔ d.initial = .sent := by
  simp only [permit]
  split <;> simp_all

/-- How a distributor stands to the messages that were delivered, in order. -/
structure Accounts (d : Distributor) (delivered : List Outgoing) : Prop where
  /-- The fabric manager has received nothing unless the initial configuration was delivered. -/
  silent : d.initial ≠ .sent → forFabric delivered = []
  /-- The initial configuration comes first, and then changes only. -/
  opened : d.initial = .sent → InitThenDeltas (forFabric delivered)
  deltas : d.deltas = .ofNat (delivered.countP fun o => o.kind = .delta)
  streamConfigs : d.streamConfigs = .ofNat (delivered.countP fun o => o.kind = .streamConfig)

namespace Accounts

variable {d : Distributor} {delivered : List Outgoing} {o : Outgoing}

theorem fresh : Accounts .fresh [] := ⟨fun _ => rfl, nofun, rfl, rfl⟩

/-- A permitted message is delivered. -/
theorem deliver (h : d.Accounts delivered) (hp : d.permit o = .ok ()) :
    (d.conclude true o).Accounts (delivered ++ [o]) := by
  have hcounted : ∀ kind : MessageKind, o.kind = kind →
      UInt64.ofNat ((delivered ++ [o]).countP fun o => o.kind = kind) =
        .ofNat (delivered.countP fun o => o.kind = kind) + 1 := by
    rintro _ rfl
    simp [List.countP_append]
  have hother : ∀ kind : MessageKind, o.kind ≠ kind →
      (delivered ++ [o]).countP (fun o => o.kind = kind) =
        delivered.countP fun o => o.kind = kind := by
    intro kind hkind
    simp [List.countP_append, hkind]
  cases o with
  | init queries =>
    have hpending : d.initial = .pending := permit_init_iff.1 hp
    refine ⟨nofun, fun _ => ⟨queries, [], ?_⟩, ?_, ?_⟩
    · rw [forFabric_append, h.silent (by simp [hpending])]
      rfl
    · rw [hother .delta nofun]
      exact h.deltas
    · rw [hother .streamConfig nofun]
      exact h.streamConfigs
  | delta content =>
    have hsent : d.initial = .sent := permit_delta_iff.1 hp
    obtain ⟨queries, changes, hfabric⟩ := h.opened hsent
    refine ⟨fun hne => absurd hsent hne, fun _ => ⟨queries, changes ++ [content], ?_⟩, ?_, ?_⟩
    · rw [forFabric_append, hfabric]
      simp
    · rw [hcounted .delta rfl, ← h.deltas]
      rfl
    · rw [hother .streamConfig nofun]
      exact h.streamConfigs
  | streamConfig queries =>
    refine ⟨fun hne => ?_, fun hsent => ?_, ?_, ?_⟩
    · rw [forFabric_append, h.silent hne]
      rfl
    · obtain ⟨first, changes, hfabric⟩ := h.opened hsent
      exact ⟨first, changes, by rw [forFabric_append, hfabric]; simp⟩
    · rw [hother .delta nofun]
      exact h.deltas
    · rw [hcounted .streamConfig rfl, ← h.streamConfigs]
      rfl

/-- The delivery of a permitted message is given up. -/
theorem giveUp (h : d.Accounts delivered) (hp : d.permit o = .ok ()) :
    (d.conclude false o).Accounts delivered := by
  cases o with
  | init queries =>
    have hpending : d.initial = .pending := permit_init_iff.1 hp
    exact ⟨fun _ => h.silent (by simp [hpending]), nofun, h.deltas, h.streamConfigs⟩
  | delta content => exact h
  | streamConfig queries => exact h

/-- The distributor counts as initialized just if the initial configuration was delivered. -/
theorem isInitialized_iff (h : d.Accounts delivered) :
    d.isInitialized = true ↔ ∃ queries, .init queries ∈ delivered := by
  have hmem : ∀ queries, .init queries ∈ delivered ↔ .init queries ∈ forFabric delivered := by
    intro queries
    simp [forFabric, Outgoing.isForStreaming]
  constructor
  · intro hinit
    obtain ⟨queries, changes, hfabric⟩ := h.opened (by simpa [isInitialized] using hinit)
    exact ⟨queries, (hmem queries).2 (by rw [hfabric]; exact List.mem_cons_self)⟩
  · rintro ⟨queries, hq⟩
    by_contra hne
    rw [hmem, h.silent (by simpa [isInitialized] using hne)] at hq
    cases hq

end Accounts

end Distributor

namespace RetryPolicy

variable {p : RetryPolicy} {kind : MessageKind} {endpoint : String} {attempts : Nat}
  {outcome : Except ChannelError Unit}

/-- Only a successful attempt delivers. -/
theorem verdict_delivered {n : Nat}
    (h : p.verdict kind endpoint attempts outcome = .delivered n) :
    outcome = .ok () ∧ n = attempts := by
  unfold verdict at h
  split at h
  · cases h
    exact ⟨rfl, rfl⟩
  · split at h <;> cases h

/-- A failed attempt is followed by a pause as long as another one is allowed. -/
theorem verdict_retry {pause : Duration}
    (h : p.verdict kind endpoint attempts outcome = .retry pause) :
    ∃ e, outcome = .error e := by
  unfold verdict at h
  split at h
  · cases h
  · exact ⟨_, rfl⟩

/-- The last allowed attempt ends the delivery with the error that it met. -/
theorem verdict_failed {e : DistributorError}
    (h : p.verdict kind endpoint attempts outcome = .failed e) :
    ∃ source, outcome = .error source ∧ e = .gaveUp kind endpoint attempts source := by
  unfold verdict at h
  split at h
  · cases h
  · next source =>
    split at h
    · cases h
    · cases h
      exact ⟨source, rfl, rfl⟩

end RetryPolicy

namespace Channel

variable {σ : Type} {c : Channel σ} {own other : σ → List (List UInt8)} {attempts : σ → Nat}

/-- One round of the delivery loop. -/
theorem deliverFrom_eq (p : RetryPolicy) (kind : MessageKind) (frame : List UInt8) (n : Nat)
    (s : σ) :
    c.deliverFrom p kind frame n s =
      match p.verdict kind c.endpoint (n + 1) (c.attempt frame s).1 with
      | .delivered k => (.ok k, (c.attempt frame s).2)
      | .failed e => (.error e, (c.attempt frame s).2)
      | .retry pause =>
        c.deliverFrom p kind frame (n + 1) (c.pause pause (c.attempt frame s).2) := by
  rw [deliverFrom]
  rcases c.attempt frame s with ⟨outcome, s'⟩
  simp only
  split <;> next hv => simp only [hv]

/-- A channel whose successful attempts hand over exactly their frame, and whose failed attempts
hand over nothing. `own` and `other` are what its endpoint and the other one have received, and
`attempts` counts the attempts. -/
structure HandsOver (c : Channel σ) (own other : σ → List (List UInt8)) (attempts : σ → Nat) :
    Prop where
  delivered : ∀ {frame : List UInt8} {s : σ}, (c.attempt frame s).1 = .ok () →
    own (c.attempt frame s).2 = own s ++ [frame]
  refused : ∀ {frame : List UInt8} {s : σ} {e : ChannelError}, (c.attempt frame s).1 = .error e →
    own (c.attempt frame s).2 = own s
  apart : ∀ (frame : List UInt8) (s : σ), other (c.attempt frame s).2 = other s
  counted : ∀ (frame : List UInt8) (s : σ), attempts (c.attempt frame s).2 = attempts s + 1
  own_pause : ∀ (d : Duration) (s : σ), own (c.pause d s) = own s
  other_pause : ∀ (d : Duration) (s : σ), other (c.pause d s) = other s
  attempts_pause : ∀ (d : Duration) (s : σ), attempts (c.pause d s) = attempts s

namespace HandsOver

/-- What the delivery loop comes to: either the frame was handed over once, or nothing was and the
error is that the delivery was given up. The other endpoint has no part in it. -/
theorem deliverFrom (h : c.HandsOver own other attempts) (p : RetryPolicy) (kind : MessageKind)
    (frame : List UInt8) (n : Nat) (s : σ) :
    ((∃ k, (c.deliverFrom p kind frame n s).1 = .ok k ∧
          own (c.deliverFrom p kind frame n s).2 = own s ++ [frame]) ∨
        ∃ k e, (c.deliverFrom p kind frame n s).1 = .error (.gaveUp kind c.endpoint k e) ∧
          own (c.deliverFrom p kind frame n s).2 = own s) ∧
      other (c.deliverFrom p kind frame n s).2 = other s ∧
      attempts s < attempts (c.deliverFrom p kind frame n s).2 := by
  -- The attempts that are still allowed bound the rounds.
  induction hleft : p.allowed - n using Nat.strongRecOn generalizing n s with
  | ind left ih =>
    have hapart := h.apart frame s
    have hcounted : attempts s < attempts (c.attempt frame s).2 := by
      rw [h.counted]
      exact Nat.lt_succ_self _
    rw [deliverFrom_eq]
    split
    · next k hv =>
      obtain ⟨hok, -⟩ := RetryPolicy.verdict_delivered hv
      exact ⟨.inl ⟨k, rfl, h.delivered hok⟩, hapart, hcounted⟩
    · next e hv =>
      obtain ⟨source, herror, rfl⟩ := RetryPolicy.verdict_failed hv
      exact ⟨.inr ⟨n + 1, source, rfl, h.refused herror⟩, hapart, hcounted⟩
    · next pause hv =>
      obtain ⟨source, herror⟩ := RetryPolicy.verdict_retry hv
      have hallowed := RetryPolicy.lt_allowed_of_verdict hv
      obtain ⟨hown, hother, hmore⟩ :=
        ih (p.allowed - (n + 1)) (by omega) (n + 1) (c.pause pause (c.attempt frame s).2) rfl
      rw [h.own_pause, h.refused herror] at hown
      rw [h.other_pause, hapart] at hother
      rw [h.attempts_pause] at hmore
      exact ⟨hown, hother, Nat.lt_trans hcounted hmore⟩

end HandsOver

end Channel

/-- What the endpoints have received, and how many attempts were made, read off the state behind
the channels. -/
structure Receipts (σ : Type) where
  fabric : σ → List (List UInt8)
  streaming : σ → List (List UInt8)
  attempts : σ → Nat

/-- Both channels hand over what they say, each to its own endpoint. -/
structure Receipts.Honest {σ : Type} (r : Receipts σ) (links : Links σ) : Prop where
  fabric : links.fabric.HandsOver r.fabric r.streaming r.attempts
  streaming : links.streaming.HandsOver r.streaming r.fabric r.attempts

/-- The frames of messages, in order. -/
def frames (messages : List Outgoing) : List (List UInt8) := messages.map (·.frame)

@[simp] theorem frames_append (xs ys : List Outgoing) :
    frames (xs ++ ys) = frames xs ++ frames ys := List.map_append ..

namespace Distributor

variable {σ : Type} {r : Receipts σ} {links : Links σ}

/-- What the delivery of a permitted message comes to, whichever endpoint it is for. -/
theorem deliver_cases (honest : r.Honest links) (o : Outgoing) (s : σ) :
    ((∃ k, ((links.channel o).deliver links.retry o.kind o.frame s).1 = .ok k ∧
          r.fabric ((links.channel o).deliver links.retry o.kind o.frame s).2 =
            r.fabric s ++ frames (forFabric [o]) ∧
          r.streaming ((links.channel o).deliver links.retry o.kind o.frame s).2 =
            r.streaming s ++ frames (forStreaming [o])) ∨
        ∃ k e, ((links.channel o).deliver links.retry o.kind o.frame s).1 =
            .error (.gaveUp o.kind (links.channel o).endpoint k e) ∧
          r.fabric ((links.channel o).deliver links.retry o.kind o.frame s).2 = r.fabric s ∧
          r.streaming ((links.channel o).deliver links.retry o.kind o.frame s).2 =
            r.streaming s) ∧
      r.attempts s < r.attempts ((links.channel o).deliver links.retry o.kind o.frame s).2 := by
  by_cases hs : o.isForStreaming = true
  · have hchannel : links.channel o = links.streaming := if_pos hs
    have hfabric : frames (forFabric [o]) = [] := by simp [forFabric, frames, hs]
    have hstreaming : frames (forStreaming [o]) = [o.frame] := by simp [forStreaming, frames, hs]
    rw [hchannel, hfabric, hstreaming, List.append_nil]
    obtain ⟨hown, hother, hmore⟩ :=
      honest.streaming.deliverFrom links.retry o.kind o.frame 0 s
    refine ⟨?_, hmore⟩
    rcases hown with ⟨k, hok, hown⟩ | ⟨k, e, herror, hown⟩
    · exact .inl ⟨k, hok, hother, hown⟩
    · exact .inr ⟨k, e, herror, hother, hown⟩
  · have hchannel : links.channel o = links.fabric := if_neg hs
    have hfabric : frames (forFabric [o]) = [o.frame] := by simp [forFabric, frames, hs]
    have hstreaming : frames (forStreaming [o]) = [] := by simp [forStreaming, frames, hs]
    rw [hchannel, hfabric, hstreaming, List.append_nil]
    obtain ⟨hown, hother, hmore⟩ := honest.fabric.deliverFrom links.retry o.kind o.frame 0 s
    refine ⟨?_, hmore⟩
    rcases hown with ⟨k, hok, hown⟩ | ⟨k, e, herror, hown⟩
    · exact .inl ⟨k, hok, hown, hother⟩
    · exact .inr ⟨k, e, herror, hown, hother⟩

/-- What sending a message comes to: it is refused, and nothing changes; or it is delivered to its
endpoint; or its delivery is given up, and no endpoint receives anything. -/
theorem send_cases (honest : r.Honest links) (o : Outgoing) (d : Distributor) (s : σ) :
    (∃ e, d.permit o = .error e ∧ send links o d s = (.error e, d, s)) ∨
    d.permit o = .ok () ∧ ∃ s', r.attempts s < r.attempts s' ∧
      ((send links o d s = (.ok (), d.conclude true o, s') ∧
          r.fabric s' = r.fabric s ++ frames (forFabric [o]) ∧
          r.streaming s' = r.streaming s ++ frames (forStreaming [o])) ∨
        ∃ k e, send links o d s =
            (.error (.gaveUp o.kind (links.channel o).endpoint k e), d.conclude false o, s') ∧
          r.fabric s' = r.fabric s ∧ r.streaming s' = r.streaming s) := by
  unfold send
  cases hp : d.permit o with
  | error e => exact .inl ⟨e, rfl, rfl⟩
  | ok u =>
    obtain ⟨hcases, hmore⟩ := deliver_cases honest o s
    rcases hd : (links.channel o).deliver links.retry o.kind o.frame s with ⟨answer, s'⟩
    rw [hd] at hcases hmore
    refine .inr ⟨rfl, s', hmore, ?_⟩
    rcases hcases with ⟨k, hok, hfabric, hstreaming⟩ | ⟨k, e, herror, hfabric, hstreaming⟩
    · obtain rfl : answer = .ok k := hok
      exact .inl ⟨rfl, hfabric, hstreaming⟩
    · obtain rfl : answer = .error (.gaveUp o.kind (links.channel o).endpoint k e) := herror
      exact .inr ⟨k, e, rfl, hfabric, hstreaming⟩

end Distributor

namespace Distributor

/-- A message that is refused came at the wrong time. -/
theorem isPrecondition_of_permit {d : Distributor} {o : Outgoing} {e : DistributorError}
    (h : d.permit o = .error e) : e.isPrecondition = true := by
  cases o with
  | init queries =>
    simp only [permit] at h
    split at h <;> cases h
    rfl
  | delta content =>
    simp only [permit] at h
    split at h <;> cases h
    rfl
  | streamConfig queries => cases h

/-- Once the initial configuration was given up, the fabric manager is given up. -/
theorem conclude_failed {d : Distributor} {o : Outgoing} {delivered : Bool}
    (h : d.initial = .failed) (hp : d.permit o = .ok ()) :
    (d.conclude delivered o).initial = .failed ∧ forFabric [o] = [] := by
  cases o with
  | init queries => simp [permit_init_iff.1 hp] at h
  | delta content => simp [permit_delta_iff.1 hp] at h
  | streamConfig queries =>
    refine ⟨?_, rfl⟩
    cases delivered <;> exact h

end Distributor

/-- A distributor after calls, the state behind its channels, and what was answered to each call. -/
structure Session (σ : Type) where
  distributor : Distributor
  state : σ
  log : List (Outgoing × Except DistributorError Unit)

namespace Session

variable {σ : Type}

/-- A new distributor. -/
def fresh (s : σ) : Session σ := ⟨.fresh, s, []⟩

/-- One more call. -/
def call (links : Links σ) (x : Session σ) (o : Outgoing) : Session σ :=
  match x.distributor.send links o x.state with
  | (answer, d, s) => ⟨d, s, x.log ++ [(o, answer)]⟩

/-- Calls in order. -/
def calls (links : Links σ) (x : Session σ) (messages : List Outgoing) : Session σ :=
  messages.foldl (call links) x

/-- The messages of the calls that were answered well, in order. -/
def delivered (x : Session σ) : List Outgoing :=
  x.log.filterMap fun entry =>
    match entry.2 with
    | .ok () => some entry.1
    | .error _ => none

/-- The delivery of the initial configuration was given up by some call. -/
def LostInit (x : Session σ) : Prop :=
  ∃ o endpoint attempts e, (o, .error (.gaveUp .init endpoint attempts e)) ∈ x.log

/-- What holds between calls, when the endpoints had the receipts of `s₀` at first. -/
structure Kept (r : Receipts σ) (s₀ : σ) (x : Session σ) : Prop where
  accounts : x.distributor.Accounts x.delivered
  fabric : r.fabric x.state = r.fabric s₀ ++ frames (forFabric x.delivered)
  streaming : r.streaming x.state = r.streaming s₀ ++ frames (forStreaming x.delivered)
  lost : x.LostInit → x.distributor.initial = .failed

variable {r : Receipts σ} {links : Links σ} {s₀ : σ} {x : Session σ}

theorem kept_fresh (r : Receipts σ) (s₀ : σ) : (fresh s₀).Kept r s₀ where
  accounts := .fresh
  fabric := by simp [fresh, delivered, forFabric, frames]
  streaming := by simp [fresh, delivered, forStreaming, frames]
  lost := by
    rintro ⟨o, endpoint, attempts, e, h⟩
    cases h

theorem delivered_ok (x : Session σ) (d : Distributor) (s : σ) (o : Outgoing) :
    (⟨d, s, x.log ++ [(o, .ok ())]⟩ : Session σ).delivered = x.delivered ++ [o] := by
  simp [delivered]

theorem delivered_error (x : Session σ) (d : Distributor) (s : σ) (o : Outgoing)
    (e : DistributorError) :
    (⟨d, s, x.log ++ [(o, .error e)]⟩ : Session σ).delivered = x.delivered := by
  simp [delivered]

theorem lostInit_append (d : Distributor) (s : σ) (o : Outgoing)
    (answer : Except DistributorError Unit) :
    (⟨d, s, x.log ++ [(o, answer)]⟩ : Session σ).LostInit ↔
      x.LostInit ∨ ∃ endpoint attempts e, answer = .error (.gaveUp .init endpoint attempts e) := by
  simp only [LostInit, List.mem_append, List.mem_singleton, Prod.mk.injEq]
  constructor
  · rintro ⟨o', endpoint, attempts, e, h | ⟨-, h⟩⟩
    · exact .inl ⟨o', endpoint, attempts, e, h⟩
    · exact .inr ⟨endpoint, attempts, e, h.symm⟩
  · rintro (⟨o', endpoint, attempts, e, h⟩ | ⟨endpoint, attempts, e, h⟩)
    · exact ⟨o', endpoint, attempts, e, .inl h⟩
    · exact ⟨o, endpoint, attempts, e, .inr ⟨rfl, h.symm⟩⟩

/-- One call preserves what holds between calls. -/
theorem Kept.call (h : x.Kept r s₀) (honest : r.Honest links) (o : Outgoing) :
    (x.call links o).Kept r s₀ := by
  rcases Distributor.send_cases honest o x.distributor x.state with
    ⟨e, hp, hsend⟩ | ⟨hp, s', -, ⟨hsend, hfabric, hstreaming⟩ | ⟨k, e, hsend, hfabric, hstreaming⟩⟩
  · -- Refused: the log grows by an answer that delivers nothing.
    have hpre := Distributor.isPrecondition_of_permit hp
    simp only [Session.call, hsend]
    refine ⟨?_, ?_, ?_, ?_⟩
    · simpa [delivered_error] using h.accounts
    · simpa [delivered_error] using h.fabric
    · simpa [delivered_error] using h.streaming
    · rw [lostInit_append]
      rintro (hlost | ⟨endpoint, attempts, e', he⟩)
      · exact h.lost hlost
      · cases he
        cases hpre
  · -- Delivered: the log and the endpoint grow by the same message.
    simp only [Session.call, hsend]
    refine ⟨?_, ?_, ?_, ?_⟩
    · simpa [delivered_ok] using h.accounts.deliver hp
    · simp [delivered_ok, hfabric, h.fabric]
    · simp [delivered_ok, hstreaming, h.streaming]
    · rw [lostInit_append]
      rintro (hlost | ⟨endpoint, attempts, e', he⟩)
      · exact (Distributor.conclude_failed (h.lost hlost) hp).1
      · cases he
  · -- Given up: nothing was handed over, but the initial configuration may be lost now.
    simp only [Session.call, hsend]
    refine ⟨?_, ?_, ?_, ?_⟩
    · simpa [delivered_error] using h.accounts.giveUp hp
    · simpa [delivered_error, hfabric] using h.fabric
    · simpa [delivered_error, hstreaming] using h.streaming
    · rw [lostInit_append]
      rintro (hlost | ⟨endpoint, attempts, e', he⟩)
      · exact (Distributor.conclude_failed (h.lost hlost) hp).1
      · cases o with
        | init queries => rfl
        | delta content => cases he
        | streamConfig queries => cases he

/-- Any calls preserve what holds between calls. -/
theorem Kept.calls (h : x.Kept r s₀) (honest : r.Honest links) (messages : List Outgoing) :
    (x.calls links messages).Kept r s₀ := by
  induction messages generalizing x with
  | nil => exact h
  | cons o rest ih => exact ih (h.call honest o)

theorem map_fst_log_calls (x : Session σ) (messages : List Outgoing) :
    (x.calls links messages).log.map (·.1) = x.log.map (·.1) ++ messages := by
  induction messages generalizing x with
  | nil => exact (List.append_nil _).symm
  | cons o rest ih =>
    have hcall : (x.call links o).log.map (·.1) = x.log.map (·.1) ++ [o] := by
      simp [Session.call]
    have hrest := ih (x.call links o)
    rw [hcall, List.append_assoc, List.singleton_append] at hrest
    exact hrest

/-- A fabric manager that was given up receives nothing by one more call. -/
theorem fabric_call_of_failed (honest : r.Honest links) (h : x.distributor.initial = .failed)
    (o : Outgoing) :
    r.fabric (x.call links o).state = r.fabric x.state ∧
      (x.call links o).distributor.initial = .failed := by
  rcases Distributor.send_cases honest o x.distributor x.state with
    ⟨e, -, hsend⟩ | ⟨hp, s', -, ⟨hsend, hfabric, -⟩ | ⟨k, e, hsend, hfabric, -⟩⟩
  · simpa only [Session.call, hsend, true_and] using h
  · obtain ⟨hfailed, hnone⟩ : (x.distributor.conclude true o).initial = .failed ∧
        forFabric [o] = [] := Distributor.conclude_failed h hp
    simp only [Session.call, hsend, hfabric, hnone, frames, List.map_nil, List.append_nil,
      hfailed, and_self]
  · obtain ⟨hfailed, -⟩ : (x.distributor.conclude false o).initial = .failed ∧
        forFabric [o] = [] := Distributor.conclude_failed h hp
    simp only [Session.call, hsend, hfabric, hfailed, and_self]

/-- A fabric manager that was given up receives nothing by any further calls. -/
theorem fabric_calls_of_failed (honest : r.Honest links) (h : x.distributor.initial = .failed)
    (messages : List Outgoing) :
    r.fabric (x.calls links messages).state = r.fabric x.state := by
  induction messages generalizing x with
  | nil => rfl
  | cons o rest ih =>
    obtain ⟨hsame, hfailed⟩ := fabric_call_of_failed honest h o
    exact (ih hfailed).trans hsame

/-- The protocol between a distributor and the managers, after calls that began when the endpoints
had the receipts of `s₀`. -/
structure Protocol (r : Receipts σ) (links : Links σ) (s₀ : σ) (messages : List Outgoing)
    (x : Session σ) : Prop where
  /-- Every call has its answer, in call order. -/
  answered : x.log.map (·.1) = messages
  /-- The fabric manager has received the messages for it that were answered well, once each and in
  call order. -/
  fabric : r.fabric x.state = r.fabric s₀ ++ frames (forFabric x.delivered)
  fabric_order : forFabric x.delivered = [] ∨ InitThenDeltas (forFabric x.delivered)
  /-- So has the streaming manager. -/
  streaming : r.streaming x.state = r.streaming s₀ ++ frames (forStreaming x.delivered)
  isInitialized_iff : x.distributor.isInitialized = true ↔ ∃ queries, .init queries ∈ x.delivered
  /-- The counts are those of the messages that were answered well, as far as 64 bits go. -/
  deltas : x.distributor.deltas = .ofNat (x.delivered.countP fun o => o.kind = .delta)
  streamConfigs :
    x.distributor.streamConfigs = .ofNat (x.delivered.countP fun o => o.kind = .streamConfig)
  /-- Once the initial configuration was given up, the fabric manager receives nothing any more. -/
  lost : x.LostInit → ∀ later, r.fabric (x.calls links later).state = r.fabric x.state
  /-- A call at the wrong time makes no attempt and changes nothing, and any other call makes at
  least one. -/
  refused : ∀ o e, (x.distributor.send links o x.state).1 = .error e → e.isPrecondition = true →
    (x.call links o).distributor = x.distributor ∧ (x.call links o).state = x.state
  attempts_iff : ∀ o, r.attempts (x.call links o).state = r.attempts x.state ↔
    ∃ e, (x.distributor.send links o x.state).1 = .error e ∧ e.isPrecondition = true

/-- Whatever is sent in whatever order, under any retry policy and however each attempt turns out,
a new distributor keeps the protocol towards the managers. -/
theorem protocol_of_calls (honest : r.Honest links) (s₀ : σ) (messages : List Outgoing) :
    Protocol r links s₀ messages ((fresh s₀).calls links messages) := by
  have hkept := (kept_fresh r s₀).calls honest messages
  have haccounts := hkept.accounts
  generalize hx : (fresh s₀).calls links messages = x at hkept haccounts ⊢
  refine
    { answered := ?_, fabric := hkept.fabric, fabric_order := ?_, streaming := hkept.streaming
      isInitialized_iff := haccounts.isInitialized_iff, deltas := haccounts.deltas
      streamConfigs := haccounts.streamConfigs
      lost := fun hlost later => fabric_calls_of_failed honest (hkept.lost hlost) later
      refused := ?_, attempts_iff := ?_ }
  · rw [← hx]
    exact map_fst_log_calls (fresh s₀) messages
  · by_cases hsent : x.distributor.initial = .sent
    · exact .inr (haccounts.opened hsent)
    · exact .inl (haccounts.silent hsent)
  · intro o e hanswer hpre
    rcases Distributor.send_cases honest o x.distributor x.state with
      ⟨e', -, hsend⟩ | ⟨-, s', -, ⟨hsend, -⟩ | ⟨k, e', hsend, -⟩⟩
    · exact ⟨by rw [Session.call, hsend], by rw [Session.call, hsend]⟩
    · rw [hsend] at hanswer
      cases hanswer
    · rw [hsend] at hanswer
      cases hanswer
      cases hpre
  · intro o
    rcases Distributor.send_cases honest o x.distributor x.state with
      ⟨e, hp, hsend⟩ | ⟨-, s', hmore, ⟨hsend, -⟩ | ⟨k, e, hsend, -⟩⟩
    · simp only [Session.call, hsend, true_iff]
      exact ⟨e, rfl, Distributor.isPrecondition_of_permit hp⟩
    · simp only [Session.call, hsend, (Nat.ne_of_gt hmore), false_iff]
      rintro ⟨e', he, -⟩
      cases he
    · simp only [Session.call, hsend, (Nat.ne_of_gt hmore), false_iff]
      rintro ⟨e', he, hpre⟩
      cases he
      cases hpre

end Session

namespace Recording

/-- What recording endpoints have seen. -/
def receipts : Receipts Recording where
  fabric r := r.fabric.received
  streaming r := r.streaming.received
  attempts r := r.fabric.attempts.length + r.streaming.attempts.length

/-- An attempt that succeeds is written down with its frame. -/
theorem received_attempt_ok {t : Tape} {endpoint : String} {now : Nat} {frame : List UInt8}
    (h : (t.attempt endpoint now frame).1 = .ok ()) :
    (t.attempt endpoint now frame).2.received = t.received ++ [frame] := by
  cases hr : t.refusals with
  | nil => simp [Tape.attempt, Tape.received, hr]
  | cons e rest => simp [Tape.attempt, hr] at h

/-- An attempt that fails is written down without its frame. -/
theorem received_attempt_error {t : Tape} {endpoint : String} {now : Nat} {frame : List UInt8}
    {e : ChannelError} (h : (t.attempt endpoint now frame).1 = .error e) :
    (t.attempt endpoint now frame).2.received = t.received := by
  cases hr : t.refusals with
  | nil => simp [Tape.attempt, hr] at h
  | cons e' rest => simp [Tape.attempt, Tape.received, hr]

theorem length_attempts_attempt (t : Tape) (endpoint : String) (now : Nat) (frame : List UInt8) :
    (t.attempt endpoint now frame).2.attempts.length = t.attempts.length + 1 := by
  cases hr : t.refusals <;> simp [Tape.attempt, hr]

/-- Recording endpoints hand over what they say, whatever refusals are planned. -/
theorem receipts_honest (fabric streaming : String) (retry : RetryPolicy) :
    receipts.Honest (links fabric streaming retry) where
  fabric :=
    { delivered := fun h => received_attempt_ok h
      refused := fun h => received_attempt_error h
      apart := fun _ _ => rfl
      counted := fun frame s => by
        have hlength := length_attempts_attempt s.fabric fabric s.now frame
        simp only [receipts, links, fabricChannel, hlength]
        omega
      own_pause := fun _ _ => rfl
      other_pause := fun _ _ => rfl
      attempts_pause := fun _ _ => rfl }
  streaming :=
    { delivered := fun h => received_attempt_ok h
      refused := fun h => received_attempt_error h
      apart := fun _ _ => rfl
      counted := fun frame s => by
        have hlength := length_attempts_attempt s.streaming streaming s.now frame
        simp only [receipts, links, streamingChannel, hlength]
        omega
      own_pause := fun _ _ => rfl
      other_pause := fun _ _ => rfl
      attempts_pause := fun _ _ => rfl }

end Recording

namespace Session

/-- Channels to recording endpoints, with a single attempt for each message. -/
def singleAttempt : Links Recording :=
  Recording.links "fm" "sm" (.atLeastOnce 1 (.ofMillis 1) (.ofMillis 2))

/-- Messages in an order that is not the right one. -/
def disorderly : List Outgoing :=
  [.delta (.queries []), .streamConfig [], .init [], .init [], .delta (.queries [])]

/-- A fabric manager that refuses the first attempt. -/
def oneRefusal : Recording := { fabric := { refusals := [.refused] } }

/-- When the only attempt to deliver the initial configuration is refused, the streaming manager
alone receives anything. When no attempt is refused, the fabric manager receives the initial
configuration and the change that comes after it. -/
theorem protocol_disorderly :
    Recording.receipts.Honest singleAttempt ∧
      (let lost := (fresh oneRefusal).calls singleAttempt disorderly
       lost.delivered = [.streamConfig []] ∧
         Protocol Recording.receipts singleAttempt oneRefusal disorderly lost) ∧
      let kept := (fresh {}).calls singleAttempt disorderly
      kept.delivered = [.streamConfig [], .init [], .delta (.queries [])] ∧
        kept.state.fabric.received = frames [.init [], .delta (.queries [])] ∧
        Protocol Recording.receipts singleAttempt {} disorderly kept := by
  have honest : Recording.receipts.Honest singleAttempt := Recording.receipts_honest ..
  exact ⟨honest, ⟨by decide +kernel, protocol_of_calls honest oneRefusal disorderly⟩,
    by decide +kernel, by decide +kernel, protocol_of_calls honest {} disorderly⟩

end Session

end ControlPlane
