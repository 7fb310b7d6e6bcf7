import ControlPlane.Config.File
import ControlPlane.Delivery.Tcp
import ControlPlane.Orchestration.Run
import ControlPlane.Proofs.Feedback.Accounting
import ControlPlane.Proofs.Feedback.Forwarding

/-!
# Events that are too long to be forwarded

What the listener accepts and what is sent have one limit, but an event takes more octets on its way
to the fabric manager than it took on its way to the listener. An event that fits is delivered by
the first attempt; one that is accepted and does not fit ends the listener, though the fabric
manager takes whatever is sent to it.

## Main definitions

- `Listener.Flows`: what may come of a listener whose fabric manager takes every frame.
- `Listener.Limited`: what the limit on frames does to such a listener.

## Main statements

- `Listener.Limited.move`: what one move preserves.
- `Listener.fails_only_at_overlong`: the listener fails just at events that do not fit.
- `Listener.stopped_by_blank`: an accepted event stops the listener.
-/

namespace ControlPlane

/-- The connections over which a plan sends to the fabric manager. -/
def Plan.toFabric (plan : Plan) : Connection :=
  ⟨plan.fabricEndpoint, plan.connectTimeout, plan.sendLimit⟩

/-- An attempt that meets no obstacle fails just if the frame is too long. -/
theorem Connection.attempt_unhindered (c : Connection) (length : Nat) :
    (c.attempt {} length).1 =
      if Frame.effectiveLimit c.limit < length then
        .error (.send c.endpoint (.stream Frame.tooLongToWrite))
      else .ok () := by
  simp only [attempt, partError, Frame.check]
  by_cases hlong : Frame.effectiveLimit c.limit < length
  · rw [if_pos hlong, if_pos hlong]
  · rw [if_neg hlong, if_neg hlong]

namespace Listener

open Log

/-- An attempt has the outcome that it has when the fabric manager takes every frame. -/
def Office.answers (plan : Plan) (o : Office) (m : Move) : Bool :=
  match m, o.listener.phase with
  | .attempt _, .sending _ parcel =>
    decide (m = .attempt (plan.toFabric.attempt {} parcel.message.frame.length).1)
  | _, _ => true

/-- What may come of a new listener whose fabric manager has its initial configuration and takes
every frame, with the history. -/
inductive Flows (plan : Plan) : List Record → Office → Prop
  | fresh (d : Desk) (free : d.holder ≠ some .listener) (begun : d.distributor.initial = .sent) :
      Flows plan [] { desk := d }
  | move {h : List Record} {o : Office} {l : Listener} {d : Desk} (m : Move) :
      Flows plan h o →
      o.listener.next plan.terms plan.receiveLimit o.cancelled o.desk m = some (l, d) →
      o.answers plan m = true →
      Flows plan (h ++ o.records { o with listener := l, desk := d } m)
        { o with listener := l, desk := d }
  | others {h : List Record} {o : Office} (d : Desk) : Flows plan h o →
      o.desk.holder ≠ some .listener → d.holder ≠ some .listener →
      d.distributor.initial = .sent → Flows plan h { o with desk := d }
  | cancel {h : List Record} {o : Office} : Flows plan h o →
      Flows plan h { o with cancelled := true }

variable {plan : Plan} {h : List Record} {o : Office} {l : Listener} {d : Desk} {m : Move}
  {records : List Record}

theorem Flows.unfolds (hf : Flows plan h o) : Unfolds plan.terms plan.receiveLimit h o := by
  induction hf with
  | fresh d free begun => exact .fresh d free
  | move m _ hnext _ ih => exact ih.move m hnext
  | others d _ hbefore hafter _ ih => exact ih.others d hbefore hafter
  | cancel _ ih => exact ih.cancel

/-- The event is too long for the frame that forwards it. -/
def TooLong (plan : Plan) (e : OutputEvent) : Prop :=
  Frame.effectiveLimit plan.sendLimit < e.encode.length + 53

/-- Why an attempt to forward an event that is too long fails. -/
def refusal (plan : Plan) : ChannelError :=
  .send plan.fabricEndpoint (.stream Frame.tooLongToWrite)

/-- The error with which the listener ends at an event that is too long. -/
def overlong (plan : Plan) : FeedbackError :=
  .forward (.gaveUp .delta plan.fabricEndpoint plan.retry.allowed (refusal plan))

/-- How a listener whose fabric manager takes every frame stands to the limit on frames. -/
structure Limited (plan : Plan) (h : List Record) (o : Office) : Prop where
  begun : o.desk.distributor.initial = .sent
  delivered : ∀ message ∈ delivered h,
    message.frame.length ≤ Frame.effectiveLimit plan.sendLimit
  /-- Only an event that is too long is attempted again. -/
  attempts : ∀ {e p}, o.listener.phase = .sending e p →
    p.failures < plan.retry.allowed ∧ (0 < p.failures → TooLong plan e)
  /-- The listener fails only when the next event of the queue is too long. -/
  failed : ∀ {error}, o.listener.phase = .ended (.error error) → error = overlong plan ∧
    ∃ e, ((queued h).map (·.2))[(Log.delivered h).length]? = some e ∧ TooLong plan e

/-- The outcome of an attempt tells whether the event is too long. -/
theorem outcome_of_answers {e : OutputEvent} {p : Parcel} {outcome : Except ChannelError Unit}
    (ha : o.answers plan (.attempt outcome) = true) (hphase : o.listener.phase = .sending e p)
    (hmessage : p.message = e.change) :
    (outcome = .ok () ∧ ¬TooLong plan e) ∨
      (outcome = .error (refusal plan) ∧ TooLong plan e) := by
  have houtcome : outcome = (plan.toFabric.attempt {} (e.encode.length + 53)).1 := by
    simp only [Office.answers, hphase, decide_eq_true_eq, Move.attempt.injEq,
      hmessage] at ha
    rw [ha, ← Outgoing.length_frame_output, OutputEvent.change]
  rw [Connection.attempt_unhindered] at houtcome
  by_cases hlong : TooLong plan e
  · exact .inr ⟨houtcome.trans (if_pos hlong), hlong⟩
  · exact .inl ⟨houtcome.trans (if_neg hlong), hlong⟩

/-- The event in hand is the next one of the queue after those that were delivered. -/
theorem Kept.next_of_sending {limit : Nat} {e : OutputEvent} {p : Parcel} (hk : Kept limit h o)
    (hphase : o.listener.phase = .sending e p) :
    ((queued h).map (·.2))[(delivered h).length]? = some e := by
  obtain ⟨sent, inHand, hsent, hline, -, hopen⟩ := hk.line.order
  rw [hphase] at hopen
  cases hopen Phase.isOpen_sending
  rw [hline, hsent, List.length_map, List.append_assoc,
    List.getElem?_append_right (Nat.le_refl _), Nat.sub_self]
  rfl

namespace Limited

theorem fresh (begun : d.distributor.initial = .sent) : Limited plan [] { desk := d } where
  begun := begun
  delivered := List.forall_mem_nil _
  attempts := by simp
  failed := by simp

/-- What has been queued and delivered stays so. -/
theorem frame (hl : Limited plan h o) (hqueued : queued h <+: queued (h ++ records))
    (hdelivered : Log.delivered records = []) (hphase : l.phase = o.listener.phase)
    (hbegun : d.distributor.initial = .sent) :
    Limited plan (h ++ records) { o with listener := l, desk := d } := by
  have hsame : Log.delivered (h ++ records) = Log.delivered h := by
    rw [delivered_append, hdelivered, List.append_nil]
  refine ⟨hbegun, hsame ▸ hl.delivered, fun h => hl.attempts (hphase ▸ h), fun h => ?_⟩
  obtain ⟨herror, e, hnext, hlong⟩ := hl.failed (hphase ▸ h)
  refine ⟨herror, e, ?_, hlong⟩
  -- The queue's history grows at its end, so the next event stays the next one.
  obtain ⟨more, hmore⟩ := hqueued
  rw [hsame, ← hmore, List.map_append,
    List.getElem?_append_left (List.getElem?_eq_some_iff.1 hnext).1, hnext]

/-- A move of the listener or of a reader, where attempts fail for the length of the frame alone. -/
theorem move (hl : Limited plan h o) (hk : Kept plan.receiveLimit h o)
    (he : Effect plan.terms plan.receiveLimit o m records l d) (ha : o.answers plan m = true) :
    Limited plan (h ++ records) { o with listener := l, desk := d } := by
  have hquiet : queued h <+: queued (h ++ []) := by simp
  cases he with
  | accept => exact hl.frame (by simp [queued]) rfl rfl hl.begun
  | finish => exact hl.frame (by simp [queued]) rfl rfl hl.begun
  | discard => exact hl.frame hquiet rfl rfl hl.begun
  | enqueue => exact hl.frame (by simp) rfl rfl hl.begun
  | dequeue =>
    rw [List.append_nil]
    exact ⟨hl.begun, hl.delivered, by simp, by simp⟩
  | refuse _ hinit => exact absurd hl.begun hinit
  | @begin e =>
    rw [List.append_nil]
    refine ⟨hl.begun, hl.delivered, fun hphase => ?_, by simp⟩
    cases hphase
    exact ⟨plan.retry.one_le_allowed, fun hpos => absurd hpos (Nat.lt_irrefl 0)⟩
  | @deliver e p hphase =>
    have hmessage := (hk.line.parcel hphase).1
    refine ⟨hl.begun, fun message hmem => ?_, by simp, by simp⟩
    rcases outcome_of_answers ha hphase hmessage with ⟨-, hfits⟩ | ⟨hfailed, -⟩
    · rw [delivered_append] at hmem
      rcases List.mem_append.1 hmem with hold | hnew
      · exact hl.delivered message hold
      · cases List.mem_singleton.1 hnew
        exact (Outgoing.length_frame_output e).trans_le (Nat.le_of_not_lt hfits)
    · cases hfailed
  | @again e p reason hphase hallowed =>
    have hmessage := (hk.line.parcel hphase).1
    rw [List.append_nil]
    refine ⟨hl.begun, hl.delivered, fun hsending => ?_, by simp⟩
    cases hsending
    rcases outcome_of_answers ha hphase hmessage with ⟨hok, -⟩ | ⟨-, hlong⟩
    · cases hok
    · exact ⟨hallowed, fun _ => hlong⟩
  | @giveUp e p reason hphase hlast =>
    have hmessage := (hk.line.parcel hphase).1
    rw [List.append_nil]
    refine ⟨hl.begun, hl.delivered, by simp, fun hended => ?_⟩
    cases hended
    rcases outcome_of_answers ha hphase hmessage with ⟨hok, -⟩ | ⟨hfailed, hlong⟩
    · cases hok
    · cases hfailed
      -- So far there have been fewer failures than attempts are allowed.
      have hcount : p.failures + 1 = plan.retry.allowed :=
        Nat.le_antisymm (hl.attempts hphase).1 hlast
      exact ⟨by rw [hcount]; rfl, e, hk.next_of_sending hphase, hlong⟩
  | stop _ hd =>
    have hbegun : d.distributor.initial = .sent := by
      rcases hd with rfl | rfl
      · exact hl.begun
      · exact hl.begun
    rw [List.append_nil]
    exact ⟨hbegun, hl.delivered, by simp, by simp⟩

end Limited

theorem Flows.limited (hf : Flows plan h o) : Limited plan h o := by
  induction hf with
  | fresh d free begun => exact .fresh begun
  | move m hf hnext ha ih =>
    have hk := hf.unfolds.kept
    exact ih.move hk (effect_of_next hk.line.parcel hnext) ha
  | others d _ _ _ begun ih => exact ⟨begun, ih.delivered, ih.attempts, ih.failed⟩
  | cancel _ ih => exact ⟨ih.begun, ih.delivered, ih.attempts, ih.failed⟩

/-- With the plan that settings describe, everything that is delivered keeps to their limit, and the
listener fails just at events that are too long by their wrapping. All other events are delivered by
the first attempt. -/
theorem fails_only_at_overlong {s : Settings} (hf : Flows (Plan.ofSettings s) h o) :
    (∀ message ∈ delivered h,
        message.frame.length ≤ Frame.effectiveLimit s.maxFrameLength.toNat) ∧
      (∀ error, o.listener.phase = .ended (.error error) →
        error = overlong (Plan.ofSettings s) ∧
          ∃ e, ((queued h).map (·.2))[(delivered h).length]? = some e ∧
            Frame.effectiveLimit s.maxFrameLength.toNat < e.encode.length + 53) ∧
      (∀ e p outcome, o.listener.phase = .sending e p →
        e.encode.length + 53 ≤ Frame.effectiveLimit s.maxFrameLength.toNat →
        o.answers (Plan.ofSettings s) (.attempt outcome) = true →
        p.failures = 0 ∧ outcome = .ok ()) ∧
      ((∀ x ∈ queued h, x.2.encode.length + 53 ≤ Frame.effectiveLimit s.maxFrameLength.toNat) →
        ∀ error, o.listener.phase ≠ .ended (.error error)) := by
  have hl := hf.limited
  refine ⟨hl.delivered, fun error => hl.failed, fun e p outcome hphase hfits ha => ?_,
    fun hfit error hended => ?_⟩
  · have hshort : ¬TooLong (Plan.ofSettings s) e := Nat.not_lt.2 hfits
    have hmessage := (hf.unfolds.kept.line.parcel hphase).1
    rcases outcome_of_answers ha hphase hmessage with ⟨hok, -⟩ | ⟨-, hlong⟩
    · exact ⟨Nat.eq_zero_of_not_pos fun hpos => hshort ((hl.attempts hphase).2 hpos), hok⟩
    · exact absurd hlong hshort
  · obtain ⟨-, e, hnext, hlong⟩ := hl.failed hended
    obtain ⟨x, hmem, rfl⟩ := List.mem_map.1 (List.mem_of_getElem? hnext)
    exact absurd hlong (Nat.not_lt.2 (hfit x hmem))

/-! ## An accepted event that is too long -/

/-- All attempts among moves in order have the outcome that they have when the fabric manager takes
every frame. -/
def Office.allAnswer (plan : Plan) (o : Office) : List Move → Bool
  | [] => true
  | m :: rest =>
    o.answers plan m &&
      match o.listener.next plan.terms plan.receiveLimit o.cancelled o.desk m with
      | none => true
      | some (l, d) => Office.allAnswer plan { o with listener := l, desk := d } rest

theorem Flows.of_replay {q : Office} (hf : Flows plan h o) {moves : List Move}
    (hr : o.replay plan.terms plan.receiveLimit moves = some q)
    (ha : o.allAnswer plan moves = true) :
    Flows plan (h ++ o.chronicle plan.terms plan.receiveLimit moves) q := by
  induction moves generalizing h o with
  | nil =>
    cases hr
    rwa [Office.chronicle, List.append_nil]
  | cons m rest ih =>
    rw [Office.allAnswer, Bool.and_eq_true] at ha
    rw [Office.replay] at hr
    split at hr
    · cases hr
    · next hnext =>
      rw [hnext] at ha
      have hq := ih (hf.move m hnext ha.1) hr ha.2
      rw [List.append_assoc] at hq
      rw [Office.chronicle, hnext]
      exact hq

/-- The frame of the event with number one and nothing else. -/
def blank : List UInt8 :=
  Text.utf8 "\x7b\"version\":1,\"body\":\x7b\"qid\":1,\"payload\":null\x7d\x7d"

/-- A producer sends one frame, and the event in it comes to its first attempt. -/
def throughTo (frame : List UInt8) (outcome : Except ChannelError Unit) : List Move :=
  [.accept (.ofFrame frame), .read 0 true, .enqueue 0, .dequeue, .approach, .attempt outcome]

/-- Standard settings but for the limit on frames and one attempt for each message. -/
def narrowSettings (limit : UInt64) : Settings :=
  { Settings.standard (some (.ofText "/home/sonata")) with
    maxAttempts := 1, maxFrameLength := limit }

/-- A configuration with a low limit on frames. -/
def narrow : String := "[distributor]\nmax_attempts = 1\n[feedback]\nmax_frame_length = 64\n"

/-- The blank event is forwarded when the limit leaves room for its wrapping and no more. -/
theorem forwards_blank : ∃ h o, Flows (Plan.ofSettings (narrowSettings 98)) h o ∧
    (delivered h).map (·.frame.length) = [98] ∧
    (∀ x ∈ queued h, x.2.encode.length + 53 ≤ Frame.effectiveLimit 98) ∧
    ∀ error, o.listener.phase ≠ .ended (.error error) := by
  have hreplay : (Office.replay (Plan.ofSettings (narrowSettings 98)).terms 98 { desk := ready }
      (throughTo blank (.ok ()))).isSome := by
    decide +kernel
  have hanswer : Office.allAnswer (Plan.ofSettings (narrowSettings 98)) { desk := ready }
      (throughTo blank (.ok ())) = true := by
    decide +kernel
  have hdelivered : (delivered (Office.chronicle (Plan.ofSettings (narrowSettings 98)).terms 98
      { desk := ready } (throughTo blank (.ok ())))).map (·.frame.length) = [98] := by
    decide +kernel
  have hfit : ∀ x ∈ queued (Office.chronicle (Plan.ofSettings (narrowSettings 98)).terms 98
      { desk := ready } (throughTo blank (.ok ()))),
      x.2.encode.length + 53 ≤ Frame.effectiveLimit 98 := by
    decide +kernel
  obtain ⟨o, ho⟩ := Option.isSome_iff_exists.1 hreplay
  have hfresh : Flows (Plan.ofSettings (narrowSettings 98)) [] { desk := ready } :=
    .fresh ready (by decide) rfl
  have hf := hfresh.of_replay ho hanswer
  exact ⟨_, o, hf, hdelivered, hfit, (fails_only_at_overlong hf).2.2.2 hfit⟩

/-- The blank event comes to its first attempt when the limit does not leave room for its
wrapping. -/
def narrowly : List Move :=
  throughTo blank (.error (refusal (Plan.ofSettings (narrowSettings 64))))

/-- The listener accepts the blank event and ends with an error when the limit does not leave room
for its wrapping. -/
theorem stopped_by_blank : ∃ s,
    Settings.ofOctets (some (.ofText "/home/sonata")) (Text.utf8 narrow) = .ok s ∧
    blank.length ≤ Frame.effectiveLimit s.maxFrameLength.toNat ∧
    OutputEvent.decode blank = .ok ⟨1, .null⟩ ∧
    ∃ h o, Flows (Plan.ofSettings s) h o ∧ accepted h = [.ofFrame blank] ∧
      o.cancelled = false ∧
      o.listener.phase = .ended (.error (overlong (Plan.ofSettings s))) := by
  have hsettings : Settings.ofOctets (some (.ofText "/home/sonata")) (Text.utf8 narrow) =
      .ok (narrowSettings 64) := by
    decide +kernel
  have hreplay : (Office.replay (Plan.ofSettings (narrowSettings 64)).terms 64 { desk := ready }
      narrowly).map (fun o => (o.cancelled, o.listener.phase)) =
        some (false, .ended (.error (overlong (Plan.ofSettings (narrowSettings 64))))) := by
    decide +kernel
  have hanswer : Office.allAnswer (Plan.ofSettings (narrowSettings 64)) { desk := ready }
      narrowly = true := by
    decide +kernel
  have haccepted : accepted (Office.chronicle (Plan.ofSettings (narrowSettings 64)).terms 64
      { desk := ready } narrowly) = [.ofFrame blank] := by
    decide +kernel
  have hlength : blank.length ≤ Frame.effectiveLimit (narrowSettings 64).maxFrameLength.toNat := by
    decide +kernel
  have hdecode : OutputEvent.decode blank = .ok ⟨1, .null⟩ := by decide +kernel
  obtain ⟨o, ho, hended⟩ := Option.map_eq_some_iff.1 hreplay
  obtain ⟨hcancelled, hphase⟩ := Prod.mk.inj hended
  have hfresh : Flows (Plan.ofSettings (narrowSettings 64)) [] { desk := ready } :=
    .fresh ready (by decide) rfl
  have hf := hfresh.of_replay ho hanswer
  exact ⟨_, hsettings, hlength, hdecode, _, o, hf, haccepted, hcancelled, hphase⟩

end Listener

end ControlPlane
