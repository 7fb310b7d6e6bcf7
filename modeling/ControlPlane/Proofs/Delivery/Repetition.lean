import ControlPlane.Delivery.Tcp
import ControlPlane.Proofs.Delivery.Protocol
import ControlPlane.Proofs.Message.RoundTrip

/-!
# Repeated initial configurations

Only one call ever sends an initial configuration. Over a connection that does not mean that it is
received only once: an attempt whose shutdown fails counts as a failed one though its frame has
arrived, and the next attempt hands over the same frame again.

## Main definitions

- `Connection.misjudged`: an attempt that counts as failed though its frame has arrived.
- `Connection.tries`: the attempts of one delivery.
- `inits`: the number of initial configurations among frames.

## Main statements

- `Wires.deliverFrom_fabric`: what one delivery hands over.
- `Session.inits_received`: how many initial configurations the fabric manager receives.
- `Session.init_received_twice`: it may receive two.
-/

namespace ControlPlane

/-! ## Attempts over a connection -/

namespace Connection

variable (c : Connection) (length : Nat)

/-- An attempt to hand over a frame of the given length counts as successful. -/
def succeeds (p : Passage) : Bool := (c.attempt p length).1.isOk

/-- The frame arrives. -/
def arrives (p : Passage) : Bool := (c.attempt p length).2

/-- The frame arrives, but the attempt counts as failed. -/
def misjudged (p : Passage) : Bool := c.arrives length p && !c.succeeds length p

/-- The attempts of a delivery that may take `n` of them: it goes on until one succeeds. -/
def tries (later : Passage) : (n : Nat) → List Passage → List Passage
  | 0, _ => []
  | n + 1, passages =>
    let p := passages.headD later
    p :: if c.succeeds length p then [] else tries later n passages.tail

variable {c : Connection} {length : Nat} {p : Passage}

theorem tries_of_lt (c : Connection) {later : Passage} {n allowed : Nat} {passages : List Passage}
    (hn : n < allowed) :
    c.tries length later (allowed - n) passages =
      passages.headD later ::
        if c.succeeds length (passages.headD later) then []
        else c.tries length later (allowed - (n + 1)) passages.tail := by
  rw [show allowed - n = allowed - (n + 1) + 1 by omega]
  rfl

theorem arrives_of_succeeds (h : c.succeeds length p = true) : c.arrives length p = true := by
  simp only [succeeds, arrives, attempt] at h ⊢
  split at h
  · cases h
  · split at h
    · cases h
    · split at h
      · cases h
      · split at h
        · cases h
        · rfl

/-- An attempt is misjudged just if the frame was written and the shutdown failed after that. -/
theorem misjudged_iff : c.misjudged length p = true ↔
    p.connect = .done ∧ length ≤ Frame.effectiveLimit c.limit ∧ p.write = .done ∧
      p.shutdown ≠ .done := by
  rcases p with ⟨connect, write, shutdown⟩
  cases connect with
  | failed source => simp [misjudged, arrives, attempt, partError]
  | expired => simp [misjudged, arrives, attempt, partError]
  | done =>
    by_cases hlong : Frame.effectiveLimit c.limit < length
    · simp [misjudged, arrives, attempt, partError, Frame.check, hlong]
    · have hfits : length ≤ Frame.effectiveLimit c.limit := Nat.le_of_not_lt hlong
      cases write with
      | failed source => simp [misjudged, arrives, attempt, partError, Frame.check, hlong]
      | expired => simp [misjudged, arrives, attempt, partError, Frame.check, hlong]
      | done =>
        cases shutdown <;>
          simp [misjudged, arrives, succeeds, attempt, partError, Frame.check, hlong, hfits,
            Except.isOk, Except.toBool]

/-- The frame arrives by the successful attempts and by the misjudged ones. -/
theorem countP_arrives (passages : List Passage) :
    passages.countP (c.arrives length) =
      passages.countP (c.succeeds length) + passages.countP (c.misjudged length) := by
  induction passages with
  | nil => rfl
  | cons p rest ih =>
    rw [List.countP_cons, List.countP_cons, List.countP_cons, ih]
    by_cases hs : c.succeeds length p = true
    · simp [misjudged, hs, arrives_of_succeeds hs]
      omega
    · simp [misjudged, hs]
      omega

/-- A delivery ends with its first success. -/
theorem countP_succeeds_tries_le (c : Connection) (length : Nat) (later : Passage) (n : Nat)
    (passages : List Passage) :
    (c.tries length later n passages).countP (c.succeeds length) ≤ 1 := by
  induction n generalizing passages with
  | zero => exact Nat.zero_le 1
  | succ n ih =>
    rw [tries, List.countP_cons]
    by_cases hs : c.succeeds length (passages.headD later) = true
    · rw [if_pos hs, if_pos hs]
      exact Nat.le_refl 1
    · rw [if_neg hs, if_neg hs]
      exact ih passages.tail

end Connection

/-! ## One delivery -/

/-- What attempts and pauses do not change, a delivery does not change. -/
theorem Channel.deliverFrom_keeps {σ τ : Type} (c : Channel σ) (view : σ → τ) {frame : List UInt8}
    (hattempt : ∀ s, view (c.attempt frame s).2 = view s)
    (hpause : ∀ d s, view (c.pause d s) = view s) (p : RetryPolicy) (kind : MessageKind) (n : Nat)
    (s : σ) : view (c.deliverFrom p kind frame n s).2 = view s := by
  induction n, s using Channel.deliverFrom.induct c p kind frame with
  | case1 n s outcome s' ha k hv =>
    rw [deliverFrom_eq, ha]
    simp only [hv]
    exact (congrArg (fun r => view r.2) ha).symm.trans (hattempt s)
  | case2 n s outcome s' ha e hv =>
    rw [deliverFrom_eq, ha]
    simp only [hv]
    exact (congrArg (fun r => view r.2) ha).symm.trans (hattempt s)
  | case3 n s outcome s' ha pause hv ih =>
    rw [deliverFrom_eq, ha]
    simp only [hv]
    rw [ih, hpause]
    exact (congrArg (fun r => view r.2) ha).symm.trans (hattempt s)

/-- A delivery is given up only when no more attempts are allowed. -/
theorem RetryPolicy.allowed_le_of_verdict {p : RetryPolicy} {kind : MessageKind}
    {endpoint : String} {attempts : Nat} {outcome : Except ChannelError Unit}
    {e : DistributorError} (h : p.verdict kind endpoint attempts outcome = .failed e) :
    p.allowed ≤ attempts := by
  unfold verdict at h
  split at h
  · cases h
  · split at h
    · cases h
    · next hlast => simpa [allowsRetry] using hlast

namespace Wires

variable {fabric streaming : Connection} {retry : RetryPolicy}

/-- The fabric manager's wire behind an attempt that went as `p` says. -/
def advance (fabric : Connection) (frame : List UInt8) (p : Passage) (w : Wire) : Wire :=
  { w with
    passages := w.passages.tail
    received := w.received ++
      List.replicate (if fabric.arrives frame.length p then 1 else 0) frame }

theorem attempt_fabric (frame : List UInt8) (w : Wires) :
    (links fabric streaming retry).fabric.attempt frame w =
      ((fabric.attempt (w.fabric.passages.headD w.fabric.later) frame.length).1,
        { w with fabric :=
          advance fabric frame (w.fabric.passages.headD w.fabric.later) w.fabric }) := by
  have hreceived : ∀ p : Passage,
      (if (fabric.attempt p frame.length).2 then w.fabric.received ++ [frame]
        else w.fabric.received) = (advance fabric frame p w.fabric).received := by
    intro p
    by_cases ha : (fabric.attempt p frame.length).2 = true
    · simp [advance, Connection.arrives, ha]
    · simp [advance, Connection.arrives, ha]
  simp only [links, Wire.attempt, hreceived]
  rfl

/-- What a delivery over the fabric manager's wire comes to when `tries` are its attempts: the frame
is handed over once for each of them by which it arrives. -/
structure Delivered (fabric : Connection) (frame : List UInt8) (tries : List Passage) (wire : Wire)
    (result : Except DistributorError Nat × Wires) : Prop where
  received : result.2.fabric.received =
    wire.received ++ List.replicate (tries.countP (fabric.arrives frame.length)) frame
  succeeded : tries.countP (fabric.succeeds frame.length) = if result.1.isOk then 1 else 0

/-- A delivery that ends with one attempt. -/
theorem delivered_once {frame : List UInt8} {p : Passage} {wire : Wire}
    {result : Except DistributorError Nat × Wires}
    (hwire : result.2.fabric = advance fabric frame p wire)
    (hok : fabric.succeeds frame.length p = result.1.isOk) :
    Delivered fabric frame [p] wire result where
  received := by rw [hwire, List.countP_singleton]; rfl
  succeeded := by rw [List.countP_singleton, hok]

/-- A delivery goes on until an attempt succeeds or no more are allowed. -/
theorem deliverFrom_fabric {kind : MessageKind} {frame : List UInt8} {n : Nat} {w : Wires}
    (hn : n < retry.allowed) :
    Delivered fabric frame
      (fabric.tries frame.length w.fabric.later (retry.allowed - n) w.fabric.passages)
      w.fabric ((links fabric streaming retry).fabric.deliverFrom retry kind frame n w) := by
  -- Each attempt takes the next passage of the wire; pauses do not touch the wires at all.
  induction n, w using Channel.deliverFrom.induct (links fabric streaming retry).fabric retry kind
    frame with
  | case1 n w outcome w' ha k hv =>
    rw [Channel.deliverFrom_eq, ha, fabric.tries_of_lt hn]
    rw [attempt_fabric] at ha
    generalize w.fabric.passages.headD w.fabric.later = p at ha ⊢
    obtain ⟨houtcome, rfl⟩ := Prod.mk.inj ha
    obtain ⟨rfl, -⟩ := RetryPolicy.verdict_delivered hv
    have hs : fabric.succeeds frame.length p = true := by
      rw [Connection.succeeds, houtcome]
      rfl
    simp only [hv, hs, if_true]
    exact delivered_once rfl hs
  | case2 n w outcome w' ha e hv =>
    rw [Channel.deliverFrom_eq, ha, fabric.tries_of_lt hn]
    rw [attempt_fabric] at ha
    generalize w.fabric.passages.headD w.fabric.later = p at ha ⊢
    obtain ⟨houtcome, rfl⟩ := Prod.mk.inj ha
    have hlast : retry.allowed - (n + 1) = 0 :=
      Nat.sub_eq_zero_of_le (RetryPolicy.allowed_le_of_verdict hv)
    obtain ⟨source, rfl, -⟩ := RetryPolicy.verdict_failed hv
    have hs : fabric.succeeds frame.length p = false := by
      rw [Connection.succeeds, houtcome]
      rfl
    simp only [hv, hs, Bool.false_eq_true, if_false, hlast, Connection.tries]
    exact delivered_once rfl hs
  | case3 n w outcome w' ha pause hv ih =>
    rw [Channel.deliverFrom_eq, ha, fabric.tries_of_lt hn]
    rw [attempt_fabric] at ha
    generalize w.fabric.passages.headD w.fabric.later = p at ha ⊢
    obtain ⟨houtcome, rfl⟩ := Prod.mk.inj ha
    obtain ⟨hreceived, hcount⟩ := ih (RetryPolicy.lt_allowed_of_verdict hv)
    obtain ⟨source, rfl⟩ := RetryPolicy.verdict_retry hv
    have hs : fabric.succeeds frame.length p = false := by
      rw [Connection.succeeds, houtcome]
      rfl
    simp only [hv, hs, Bool.false_eq_true, if_false]
    constructor
    · rw [hreceived, List.countP_cons, Nat.add_comm (List.countP _ _),
        ← List.replicate_append_replicate, ← List.append_assoc]
      rfl
    · rw [List.countP_cons_of_neg (by simp [hs])]
      exact hcount

end Wires

/-! ## Initial configurations among frames -/

theorem Outgoing.decode_frame_init (queries : List CompiledQuery) :
    ConfigMessage.decode (Outgoing.init queries).frame = .ok (.init queries) := by
  have hdepth : Json.depth (ConfigMessage.init queries).toJson ≤ 1 + 3 :=
    ConfigMessage.depth_toJson_le (Nat.le_refl 1) (List.forall_mem_nil _)
  exact (ConfigMessage.comesBack.decode_encode (.init queries) (List.forall_mem_nil _)).trans
    (if_pos (depth_envelope_le_iff.2 (Nat.le_trans hdepth (by decide))))

/-- The frames of initial configurations and of changes differ in the names of their kinds. -/
theorem Outgoing.frame_init_ne_delta (queries : List CompiledQuery) (content : DeltaContent) :
    (Outgoing.init queries).frame ≠ (Outgoing.delta content).frame := by
  intro h
  have hinit : (Outgoing.init queries).frame[29]? = some (Json.ascii 'i') := rfl
  have hdelta : (Outgoing.delta content).frame[29]? = some (Json.ascii 'd') := by
    cases content <;> rfl
  rw [h, hdelta] at hinit
  exact absurd hinit (by decide)

/-- Whether a frame carries an initial configuration. -/
def isInitFrame (frame : List UInt8) : Bool :=
  match ConfigMessage.decode frame with
  | .ok (.init queries) => (Outgoing.init queries).frame == frame
  | _ => false

theorem isInitFrame_iff {frame : List UInt8} :
    isInitFrame frame = true ↔ ∃ queries, frame = (Outgoing.init queries).frame := by
  constructor
  · intro h
    unfold isInitFrame at h
    split at h
    · next queries _ => exact ⟨queries, (beq_iff_eq.1 h).symm⟩
    · cases h
  · rintro ⟨queries, rfl⟩
    simp only [isInitFrame, Outgoing.decode_frame_init, beq_self_eq_true]

theorem isInitFrame_delta (content : DeltaContent) :
    isInitFrame (Outgoing.delta content).frame = false := by
  rw [Bool.eq_false_iff, Ne, isInitFrame_iff]
  rintro ⟨queries, h⟩
  exact Outgoing.frame_init_ne_delta queries content h.symm

/-- The number of initial configurations among frames. -/
def inits (frames : List (List UInt8)) : Nat := frames.countP isInitFrame

theorem inits_append_replicate (frames : List (List UInt8)) (n : Nat) (frame : List UInt8) :
    inits (frames ++ List.replicate n frame) =
      inits frames + if isInitFrame frame then n else 0 := by
  simp only [inits, List.countP_append, List.countP_replicate]

/-! ## Calls over connections -/

/-- Whether a message is an initial configuration. -/
def Outgoing.isInit (o : Outgoing) : Bool := o.kind == .init

/-- How many of the attempts to deliver the first initial configuration among messages are of the
kind `q`, which is given the length of the frame. -/
def Wire.initTries (c : Connection) (retry : RetryPolicy) (messages : List Outgoing)
    (q : Nat → Passage → Bool) (w : Wire) : Nat :=
  match messages.find? Outgoing.isInit with
  | none => 0
  | some o => (c.tries o.frame.length w.later retry.allowed w.passages).countP (q o.frame.length)

theorem Wire.initTries_append {c : Connection} {retry : RetryPolicy} {messages : List Outgoing}
    {o : Outgoing} {w : Wire} (h : (messages.find? Outgoing.isInit).isSome ∨ o.isInit = false)
    (q : Nat → Passage → Bool) :
    w.initTries c retry (messages ++ [o]) q = w.initTries c retry messages q := by
  have hfind : (messages ++ [o]).find? Outgoing.isInit = messages.find? Outgoing.isInit := by
    rw [List.find?_append]
    rcases h with h | h
    · obtain ⟨first, hfirst⟩ := Option.isSome_iff_exists.1 h
      rw [hfirst, Option.some_or]
    · rw [List.find?_singleton, h]
      exact Option.or_none
  simp only [initTries, hfind]

namespace Session

variable {fabric streaming : Connection} {retry : RetryPolicy} {w : Wires} {x : Session Wires}

/-- The messages of the calls so far. -/
def messages (x : Session Wires) : List Outgoing := x.log.map (·.1)

/-- How the fabric manager's wire stands to the calls so far, when it was that of `w` at first. -/
structure Repeated (fabric : Connection) (retry : RetryPolicy) (w : Wires) (x : Session Wires) :
    Prop where
  /-- The wire is as it was until an initial configuration is sent. -/
  pending : x.distributor.initial = .pending →
    x.state.fabric = w.fabric ∧ x.messages.find? Outgoing.isInit = none
  begun : x.distributor.initial ≠ .pending → (x.messages.find? Outgoing.isInit).isSome
  received : inits x.state.fabric.received = inits w.fabric.received +
    w.fabric.initTries fabric retry x.messages fabric.arrives
  delivered : x.delivered.countP Outgoing.isInit =
    w.fabric.initTries fabric retry x.messages fabric.succeeds

theorem repeated_fresh (fabric : Connection) (retry : RetryPolicy) (w : Wires) :
    (fresh w).Repeated fabric retry w :=
  ⟨fun _ => ⟨rfl, rfl⟩, fun h => absurd rfl h, rfl, rfl⟩

theorem messages_append (d : Distributor) (s : Wires) (o : Outgoing)
    (answer : Except DistributorError Unit) :
    messages ⟨d, s, x.log ++ [(o, answer)]⟩ = x.messages ++ [o] := by
  simp [messages]

theorem countP_delivered_append (d : Distributor) (s : Wires) (o : Outgoing)
    (answer : Except DistributorError Unit) (q : Outgoing → Bool) :
    (delivered ⟨d, s, x.log ++ [(o, answer)]⟩).countP q =
      x.delivered.countP q + if answer.isOk && q o then 1 else 0 := by
  cases answer with
  | ok u =>
    cases u
    rw [delivered_ok, List.countP_append, List.countP_singleton]
    rfl
  | error e =>
    rw [delivered_error]
    rfl

/-- What sending a permitted message comes to. -/
theorem send_of_permit {o : Outgoing} {d : Distributor} (links : Links Wires) (s : Wires)
    (hp : d.permit o = .ok ()) :
    ∃ answer, d.send links o s =
        (answer, d.conclude answer.isOk o,
          ((links.channel o).deliver links.retry o.kind o.frame s).2) ∧
      answer.isOk = ((links.channel o).deliver links.retry o.kind o.frame s).1.isOk := by
  rcases hr : (links.channel o).deliver links.retry o.kind o.frame s with ⟨outcome, s'⟩
  cases outcome with
  | ok n => exact ⟨.ok (), by simp only [Distributor.send, hp, hr]; rfl, rfl⟩
  | error e => exact ⟨.error e, by simp only [Distributor.send, hp, hr]; rfl, rfl⟩

namespace Repeated

variable {o : Outgoing} {d : Distributor} {s : Wires} {answer : Except DistributorError Unit}

/-- A call hands over no initial configuration, and is not the first one that should. -/
theorem frame (h : x.Repeated fabric retry w)
    (hfirst : x.distributor.initial ≠ .pending ∨ o.isInit = false)
    (hinitial : d.initial = .pending ↔ x.distributor.initial = .pending)
    (hwire : d.initial = .pending → s.fabric = x.state.fabric)
    (hreceived : inits s.fabric.received = inits x.state.fabric.received)
    (hanswer : answer.isOk → o.isInit = false) :
    Repeated fabric retry w ⟨d, s, x.log ++ [(o, answer)]⟩ := by
  have hkept : (x.messages.find? Outgoing.isInit).isSome ∨ o.isInit = false :=
    hfirst.imp_left h.begun
  refine ⟨fun hp => ?_, fun hp => ?_, ?_, ?_⟩
  · obtain ⟨hsame, hnone⟩ := h.pending (hinitial.1 hp)
    have ho : o.isInit = false := hfirst.resolve_left (fun hne => hne (hinitial.1 hp))
    refine ⟨(hwire hp).trans hsame, ?_⟩
    rw [messages_append, List.find?_append, hnone, List.find?_singleton, ho]
    rfl
  · obtain ⟨first, hsome⟩ := Option.isSome_iff_exists.1 (h.begun fun hq => hp (hinitial.2 hq))
    rw [messages_append, List.find?_append, hsome]
    rfl
  · rw [messages_append, Wire.initTries_append hkept, hreceived]
    exact h.received
  · rw [messages_append, Wire.initTries_append hkept, ← h.delivered, countP_delivered_append]
    by_cases ha : answer.isOk = true
    · rw [hanswer ha, Bool.and_false]
      rfl
    · rw [Bool.eq_false_iff.2 ha]
      rfl

/-- The first initial configuration is sent over a wire that is as it was at first. -/
theorem begin (h : x.Repeated fabric retry w) {queries : List CompiledQuery}
    (hpending : x.distributor.initial = .pending) (hd : d.initial ≠ .pending)
    {result : Except DistributorError Nat × Wires} (hs : result.2 = s)
    (hanswer : answer.isOk = result.1.isOk)
    (hresult : Wires.Delivered fabric (Outgoing.init queries).frame
      (fabric.tries (Outgoing.init queries).frame.length w.fabric.later retry.allowed
        w.fabric.passages) w.fabric result) :
    Repeated fabric retry w ⟨d, s, x.log ++ [(.init queries, answer)]⟩ := by
  have hnone := (h.pending hpending).2
  have hfind : (x.messages ++ [Outgoing.init queries]).find? Outgoing.isInit =
      some (.init queries) := by
    rw [List.find?_append, hnone]
    rfl
  refine ⟨fun hp => absurd hp hd, fun _ => ?_, ?_, ?_⟩
  · rw [messages_append, hfind]
    rfl
  · rw [messages_append, Wire.initTries, hfind, ← hs, hresult.received, inits_append_replicate,
      if_pos (isInitFrame_iff.2 ⟨queries, rfl⟩)]
  · have hbefore : x.delivered.countP Outgoing.isInit = 0 := by
      rw [h.delivered, Wire.initTries, hnone]
    rw [messages_append, Wire.initTries, hfind, countP_delivered_append, hbefore, hanswer,
      Nat.zero_add]
    simp only [Outgoing.isInit, Outgoing.kind, BEq.rfl, Bool.and_true]
    exact hresult.succeeded.symm

/-- One call preserves how the fabric manager's wire stands to the calls. -/
theorem call (h : x.Repeated fabric retry w) (o : Outgoing) :
    (x.call (Wires.links fabric streaming retry) o).Repeated fabric retry w := by
  cases hp : x.distributor.permit o with
  | error e =>
    have hsend : x.distributor.send (Wires.links fabric streaming retry) o x.state =
        (.error e, x.distributor, x.state) := by
      simp only [Distributor.send, hp]
    rw [Session.call, hsend]
    refine h.frame ?_ Iff.rfl (fun _ => rfl) rfl (fun hok => absurd hok Bool.false_ne_true)
    cases o with
    | init queries =>
      refine .inl fun hpending => ?_
      rw [Distributor.permit_init_iff.2 hpending] at hp
      cases hp
    | delta content => exact .inr rfl
    | streamConfig queries => exact .inr rfl
  | ok u =>
    obtain ⟨answer, hsend, hanswer⟩ :=
      send_of_permit (Wires.links fabric streaming retry) x.state hp
    rw [Session.call, hsend]
    cases o with
    | init queries =>
      have hpending : x.distributor.initial = .pending := Distributor.permit_init_iff.1 hp
      have hbegun : (x.distributor.conclude answer.isOk (.init queries)).initial ≠ .pending := by
        cases answer with
        | error e => exact fun hp => by cases hp
        | ok u => exact fun hp => by cases hp
      -- This is the first initial configuration, so that its attempts find the wire of `w`.
      have hresult : Wires.Delivered fabric (Outgoing.init queries).frame
          (fabric.tries (Outgoing.init queries).frame.length x.state.fabric.later
            (retry.allowed - 0) x.state.fabric.passages) x.state.fabric
          ((Wires.links fabric streaming retry).fabric.deliverFrom retry .init
            (Outgoing.init queries).frame 0 x.state) :=
        Wires.deliverFrom_fabric retry.one_le_allowed
      rw [(h.pending hpending).1, Nat.sub_zero] at hresult
      exact h.begin hpending hbegun rfl hanswer hresult
    | delta content =>
      have hsent : x.distributor.initial = .sent := Distributor.permit_delta_iff.1 hp
      have hstill : (x.distributor.conclude answer.isOk (.delta content)).initial = .sent := by
        cases answer <;> exact hsent
      have hattempt : ∀ s : Wires, inits ((Wires.links fabric streaming retry).fabric.attempt
          (Outgoing.delta content).frame s).2.fabric.received = inits s.fabric.received := by
        intro s
        rw [Wires.attempt_fabric]
        exact (inits_append_replicate ..).trans (by rw [isInitFrame_delta]; rfl)
      have hreceived := Channel.deliverFrom_keeps (Wires.links fabric streaming retry).fabric
        (fun w => inits w.fabric.received) hattempt (fun _ _ => rfl) retry .delta 0 x.state
      refine h.frame (.inr rfl) ?_ (fun hp => ?_) hreceived (fun _ => rfl)
      · rw [hstill, hsent]
      · rw [hstill] at hp
        cases hp
    | streamConfig queries =>
      have hstill : (x.distributor.conclude answer.isOk (.streamConfig queries)).initial =
          x.distributor.initial := by
        cases answer <;> rfl
      have hattempt : ∀ s : Wires, ((Wires.links fabric streaming retry).streaming.attempt
          (Outgoing.streamConfig queries).frame s).2.fabric = s.fabric := fun _ => rfl
      have hwire := Channel.deliverFrom_keeps (Wires.links fabric streaming retry).streaming
        Wires.fabric hattempt (fun _ _ => rfl) retry .streamConfig 0 x.state
      refine h.frame (.inr rfl) ?_ (fun _ => hwire)
        (congrArg (fun w => inits w.received) hwire) (fun _ => rfl)
      rw [hstill]

/-- Any calls preserve how the fabric manager's wire stands to the calls. -/
theorem calls (h : x.Repeated fabric retry w) (messages : List Outgoing) :
    (x.calls (Wires.links fabric streaming retry) messages).Repeated fabric retry w := by
  induction messages generalizing x with
  | nil => exact h
  | cons o rest ih => exact ih (h.call o)

end Repeated

/-- Of the initial configurations that the fabric manager receives by any calls on a new distributor
at most one is answered well, and the others came by attempts that were misjudged. There are two or
more only if the shutdown of an attempt failed after its frame had been written. -/
theorem inits_received (fabric streaming : Connection) (retry : RetryPolicy) (w : Wires)
    (messages : List Outgoing) :
    let x := (fresh w).calls (Wires.links fabric streaming retry) messages
    inits x.state.fabric.received = inits w.fabric.received +
        x.delivered.countP Outgoing.isInit +
          w.fabric.initTries fabric retry messages fabric.misjudged ∧
      x.delivered.countP Outgoing.isInit ≤ 1 ∧
      (inits x.state.fabric.received ≤ inits w.fabric.received + 1 ∨
        ∃ o ∈ messages, o.isInit = true ∧
          ∃ p ∈ fabric.tries o.frame.length w.fabric.later retry.allowed w.fabric.passages,
            p.connect = .done ∧ p.write = .done ∧ p.shutdown ≠ .done) := by
  intro x
  have hx : x.Repeated fabric retry w := (repeated_fresh fabric retry w).calls messages
  have hmessages : x.messages = messages := map_fst_log_calls (fresh w) messages
  have hreceived := hx.received
  have hdelivered := hx.delivered
  rw [hmessages] at hreceived hdelivered
  cases hfind : messages.find? Outgoing.isInit with
  | none =>
    simp only [Wire.initTries, hfind] at hreceived hdelivered ⊢
    exact ⟨by omega, by omega, .inl (by omega)⟩
  | some o =>
    simp only [Wire.initTries, hfind, Connection.countP_arrives] at hreceived hdelivered ⊢
    have honce := fabric.countP_succeeds_tries_le o.frame.length w.fabric.later retry.allowed
      w.fabric.passages
    refine ⟨by omega, by omega, ?_⟩
    by_cases hlost : (fabric.tries o.frame.length w.fabric.later retry.allowed
        w.fabric.passages).countP (fabric.misjudged o.frame.length) = 0
    · exact .inl (by omega)
    · obtain ⟨p, hp, hmisjudged⟩ := List.countP_pos_iff.1 (Nat.pos_of_ne_zero hlost)
      obtain ⟨hconnect, -, hwrite, hshutdown⟩ := Connection.misjudged_iff.1 hmisjudged
      exact .inr ⟨o, List.mem_of_find?_eq_some hfind, List.find?_some hfind, p, hp, hconnect,
        hwrite, hshutdown⟩

/-- A connection that is written and then not shut down in time. -/
def lingering : Passage := { shutdown := .expired }

/-- When the shutdown of the first attempt expires, the fabric manager receives the initial
configuration twice. -/
theorem init_received_twice :
    let x := (fresh { fabric := { passages := [lingering] } }).calls
      (Wires.links ⟨"fm", .ofSecs 2, Frame.defaultLimit⟩ ⟨"sm", .ofSecs 2, Frame.defaultLimit⟩
        .standard) [.init []]
    x.state.fabric.received = [(Outgoing.init []).frame, (Outgoing.init []).frame] ∧
      inits x.state.fabric.received = 2 := by
  decide +kernel

end Session

end ControlPlane
