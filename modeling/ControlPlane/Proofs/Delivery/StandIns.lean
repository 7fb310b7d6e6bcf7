import ControlPlane.Cli.Program
import ControlPlane.Proofs.Delivery.Attempts
import ControlPlane.Proofs.Delivery.Repetition
import ControlPlane.Proofs.Feedback.Limits
import ControlPlane.Proofs.Feedback.Reception
import ControlPlane.Proofs.Json.Escapes

/-!
# What stand-ins take down

A run can have stand-ins for the managers, which take down the messages that they receive. They
decode every message just as it was sent, and in order; but the longest frame that they accept is
fixed, while the longest frame that is sent to them is a setting. A message between the two limits
counts as delivered, and no stand-in takes it down.

## Main definitions

- `Outgoing.Readable`: a message that can be decoded.
- `Wire.Clean`: a wire on which every frame that is written counts as delivered.
- `Session.Carried`: what the wires to the managers carry.
- `Session.TakenDown`: what the stand-ins of a run take down of the calls of its distributor.

## Main statements

- `Wire.Clean.deliverFrom`: what a delivery over a clean wire comes to.
- `StandIn.receiveAll_frames`: what a stand-in takes down of messages.
- `Session.Carried.call`: what one call adds to the wires.
- `Session.taken_down_by_standIns`: what the stand-ins of a run take down.
- `Session.configuration_lost`: they may miss an initial configuration that counts as delivered.
-/

namespace ControlPlane

/-! ## Messages -/

namespace Outgoing

/-- The value whose text is the frame of a message. -/
def value : Outgoing → Json
  | .init queries => envelope (ConfigMessage.init queries).toJson
  | .delta content => envelope (ConfigMessage.delta content).toJson
  | .streamConfig queries => envelope (StreamConfig.mk queries).toJson

/-- The free values in a message. -/
def payloads : Outgoing → List Json
  | .delta content => content.payloads
  | _ => []

/-- The frame of a message nests no deeper than decoders go, and its payloads are values as they are
read, with whole numbers. -/
structure Readable (o : Outgoing) : Prop where
  shallow : Json.depth o.value ≤ Json.maxLevels
  payloads : ∀ v ∈ o.payloads, v.Whole ∧ v.Ordered

/-- The message that its manager should take down. -/
def received : Outgoing → Received
  | .init queries => .config (.init queries)
  | .delta content => .config (.delta content)
  | .streamConfig queries => .stream ⟨queries⟩

/-- A message that takes compiled queries to a manager can always be decoded. -/
theorem readable_queries (queries : List CompiledQuery) :
    (init queries).Readable ∧ (delta (.queries queries)).Readable ∧
      (streamConfig queries).Readable := by
  have hconfig : ∀ m : ConfigMessage, (∀ v ∈ m.payloads, Json.depth v ≤ 1) →
      Json.depth (envelope m.toJson) ≤ Json.maxLevels := fun m h =>
    depth_envelope_le_iff.2 (Nat.le_trans (m.depth_toJson_le (Nat.le_refl 1) h) (by decide))
  have hstream : Json.depth (envelope (StreamConfig.mk queries).toJson) ≤ Json.maxLevels :=
    depth_envelope_le_iff.2 (Nat.le_trans (StreamConfig.mk queries).depth_toJson_le (by decide))
  exact ⟨⟨hconfig (.init queries) (List.forall_mem_nil _), List.forall_mem_nil _⟩,
    ⟨hconfig (.delta (.queries queries)) (List.forall_mem_nil _), List.forall_mem_nil _⟩,
    ⟨hstream, List.forall_mem_nil _⟩⟩

end Outgoing

/-! ## Stand-ins -/

namespace StandIn

variable {s : StandIn} {o : Outgoing}

/-- The stand-in is for the manager that the message is for. -/
def Serves (s : StandIn) (o : Outgoing) : Prop :=
  s.kind = .streamingManager ↔ o.isForStreaming = true

/-- A stand-in for the fabric manager decodes what is for that. -/
theorem decode_config (hs : s.kind ≠ .streamingManager) {m : ConfigMessage}
    (hpayloads : ∀ v ∈ m.payloads, v.Whole ∧ v.Ordered)
    (hdepth : Json.depth (envelope m.toJson) ≤ Json.maxLevels) :
    s.decode m.encode = some (.config m) := by
  have hdecode : ConfigMessage.decode m.encode = .ok m :=
    (ConfigMessage.comesBack.decode_encode m hpayloads).trans (if_pos hdepth)
  unfold decode
  split
  · next hkind => exact absurd hkind hs
  · rw [hdecode]
    rfl

/-- A stand-in decodes a message as it was sent. -/
theorem decode_frame (hs : s.Serves o) (ho : o.Readable) : s.decode o.frame = some o.received := by
  cases o with
  | init queries =>
    exact decode_config (fun h => Bool.false_ne_true (hs.1 h)) ho.payloads ho.shallow
  | delta content =>
    exact decode_config (fun h => Bool.false_ne_true (hs.1 h)) ho.payloads ho.shallow
  | streamConfig queries =>
    have hdecode : StreamConfig.decode (StreamConfig.mk queries).encode = .ok ⟨queries⟩ :=
      (StreamConfig.comesBack.decode_encode ⟨queries⟩ (List.forall_mem_nil _)).trans
        (if_pos ho.shallow)
    have hkind : s.kind = .streamingManager := hs.2 rfl
    simp only [decode, hkind, Outgoing.frame, hdecode]
    rfl

end StandIn

/-- A reader finds the one frame of a connection unless it is longer than the limit. -/
theorem Transmission.frame?_ofFrame (limit : Nat) {frame : List UInt8}
    (hsize : frame.length < UInt32.size) :
    (ofFrame frame).frame? limit =
      if frame.length ≤ Frame.effectiveLimit limit then some frame else none := by
  by_cases hfits : frame.length ≤ Frame.effectiveLimit limit
  · rw [if_pos hfits]
    exact frame?_eq_some_iff.2 ⟨hfits, [], (List.append_nil _).symm⟩
  · have hread : Frame.read limit (ofFrame frame).octets = .failed Frame.tooLongToRead := by
      simp only [ofFrame, Frame.lengthOctets, List.cons_append, List.nil_append, Frame.read,
        Frame.lengthOf_lengthOctets hsize]
      exact if_pos (Nat.lt_of_not_le hfits)
    rw [if_neg hfits, frame?, hread]

namespace StandIn

variable {s : StandIn} {o : Outgoing}

/-- What a stand-in takes down of the connection that carries a message. -/
theorem receive_frame (hs : s.Serves o) (ho : o.Readable) (hsize : o.frame.length < UInt32.size) :
    s.receive (.ofFrame o.frame) =
      if o.frame.length ≤ Frame.effectiveLimit s.limit then some o.received else none := by
  rw [receive, Transmission.frame?_ofFrame s.limit hsize]
  split
  · exact decode_frame hs ho
  · rfl

/-- Of messages that can be decoded a stand-in takes down those that are not too long for it, in
order, and nothing else. -/
theorem receiveAll_frames {messages : List Outgoing} (hs : ∀ o ∈ messages, s.Serves o)
    (hreadable : ∀ o ∈ messages, o.Readable)
    (hsize : ∀ o ∈ messages, o.frame.length < UInt32.size) :
    s.receiveAll ((frames messages).map .ofFrame) =
      (messages.filter fun o => o.frame.length ≤ Frame.effectiveLimit s.limit).map
        Outgoing.received := by
  induction messages with
  | nil => rfl
  | cons o rest ih =>
    obtain ⟨hso, hs⟩ := List.forall_mem_cons.1 hs
    obtain ⟨hro, hreadable⟩ := List.forall_mem_cons.1 hreadable
    obtain ⟨hlo, hsize⟩ := List.forall_mem_cons.1 hsize
    have ih := ih hs hreadable hsize
    rw [receiveAll, frames, List.map_cons, List.map_cons, List.filterMap_cons,
      receive_frame hso hro hlo, List.filter_cons]
    rw [receiveAll, frames] at ih
    by_cases hfits : o.frame.length ≤ Frame.effectiveLimit s.limit
    · rw [if_pos hfits, if_pos (decide_eq_true hfits), List.map_cons, ih]
    · rw [if_neg hfits, if_neg (by simpa using hfits), ih]

end StandIn

/-! ## Clean wires -/

namespace Connection

variable {c : Connection} {length : Nat} {p : Passage}

/-- If its shutdown does not fail, an attempt is judged by whether the frame arrives. -/
theorem arrives_eq_succeeds (hp : p.shutdown = .done) :
    c.arrives length p = c.succeeds length p := by
  by_cases hs : c.succeeds length p = true
  · rw [hs, arrives_of_succeeds hs]
  · rw [Bool.eq_false_iff.2 hs, Bool.eq_false_iff]
    intro ha
    have hmisjudged : c.misjudged length p = true := by
      rw [misjudged, ha, Bool.eq_false_iff.2 hs]
      rfl
    exact (misjudged_iff.1 hmisjudged).2.2.2 hp

theorem fits_of_succeeds (hs : c.succeeds length p = true) :
    length ≤ Frame.effectiveLimit c.limit := by
  by_contra hlong
  have hrefused : Frame.check c.limit length = .error Frame.tooLongToWrite :=
    if_pos (Nat.lt_of_not_le hlong)
  rw [succeeds, attempt, hrefused] at hs
  cases hconnect : c.partError (.unavailable c.endpoint) p.connect <;>
    simp [hconnect, Except.isOk, Except.toBool] at hs

end Connection

namespace Wire

/-- On a wire every frame that is written counts as delivered: no shutdown fails. -/
structure Clean (w : Wire) : Prop where
  passages : ∀ p ∈ w.passages, p.shutdown = .done
  later : w.later.shutdown = .done

/-- A frame is handed over if it counts as delivered, and then it is not too long; otherwise nothing
is. The wire stays clean. -/
structure Handed (c : Connection) (frame : List UInt8) (w : Wire) (ok : Bool) (after : Wire) :
    Prop where
  clean : after.Clean
  received : after.received = w.received ++ if ok then [frame] else []
  fits : ok = true → frame.length ≤ Frame.effectiveLimit c.limit

variable {c : Connection} {frame : List UInt8} {w : Wire}

theorem Clean.attempt (hw : w.Clean) (c : Connection) (frame : List UInt8) :
    Handed c frame w (Wire.attempt c frame w).1.isOk (Wire.attempt c frame w).2 := by
  have hshutdown : (w.passages.headD w.later).shutdown = .done := by
    cases hp : w.passages with
    | nil => exact hw.later
    | cons p rest => exact hw.passages p (hp ▸ List.mem_cons_self)
  have hjudged : c.arrives frame.length (w.passages.headD w.later) =
      c.succeeds frame.length (w.passages.headD w.later) :=
    Connection.arrives_eq_succeeds hshutdown
  constructor
  · exact ⟨fun p hp => hw.passages p (List.mem_of_mem_tail hp), hw.later⟩
  · have hreceived : (Wire.attempt c frame w).2.received =
        if c.arrives frame.length (w.passages.headD w.later) then w.received ++ [frame]
        else w.received := rfl
    have hok : (Wire.attempt c frame w).1.isOk =
        c.succeeds frame.length (w.passages.headD w.later) := rfl
    rw [hreceived, hok, hjudged]
    split
    · rfl
    · exact (List.append_nil _).symm
  · exact Connection.fits_of_succeeds

/-- A delivery over a clean wire hands its frame over once if it succeeds, and otherwise not at
all. -/
theorem Clean.deliverFrom (hw : w.Clean) (c : Connection) (p : RetryPolicy) (kind : MessageKind)
    (frame : List UInt8) (n : Nat) :
    Handed c frame w ((channel c).deliverFrom p kind frame n w).1.isOk
      ((channel c).deliverFrom p kind frame n w).2 := by
  induction n, w using Channel.deliverFrom.induct (channel c) p kind frame with
  | case1 n w outcome w' ha k hv =>
    have hattempt := hw.attempt c frame
    obtain ⟨rfl, -⟩ := RetryPolicy.verdict_delivered hv
    rw [Channel.deliverFrom_eq, ha]
    simp only [hv]
    rwa [show Wire.attempt c frame w = _ from ha] at hattempt
  | case2 n w outcome w' ha e hv =>
    have hattempt := hw.attempt c frame
    obtain ⟨source, rfl, -⟩ := RetryPolicy.verdict_failed hv
    rw [Channel.deliverFrom_eq, ha]
    simp only [hv]
    rwa [show Wire.attempt c frame w = _ from ha] at hattempt
  | case3 n w outcome w' ha pause hv ih =>
    -- A failed attempt hands over nothing, so the rest of the delivery might as well begin here.
    have hattempt := hw.attempt c frame
    obtain ⟨source, rfl⟩ := RetryPolicy.verdict_retry hv
    rw [show Wire.attempt c frame w = _ from ha] at hattempt
    have hsame : w'.received = w.received := hattempt.received.trans (List.append_nil _)
    obtain ⟨hclean, hreceived, hfits⟩ := ih hattempt.clean
    rw [Channel.deliverFrom_eq, ha]
    simp only [hv]
    exact ⟨hclean, hreceived.trans (congrArg (· ++ _) hsame), hfits⟩

end Wire

/-! ## Wires to both managers -/

/-- A channel that acts on a part of a state delivers as the channel to that part alone. -/
theorem Channel.deliverFrom_part {σ τ : Type} (c : Channel σ) (d : Channel τ) (whole : τ → σ)
    {frame : List UInt8} (hendpoint : c.endpoint = d.endpoint)
    (hattempt : ∀ t,
      c.attempt frame (whole t) = ((d.attempt frame t).1, whole (d.attempt frame t).2))
    (hpause : ∀ pause t, c.pause pause (whole t) = whole (d.pause pause t)) (p : RetryPolicy)
    (kind : MessageKind) (n : Nat) (t : τ) :
    c.deliverFrom p kind frame n (whole t) =
      ((d.deliverFrom p kind frame n t).1, whole (d.deliverFrom p kind frame n t).2) := by
  induction n, t using Channel.deliverFrom.induct d p kind frame with
  | case1 n t outcome t' ha k hv =>
    rw [deliverFrom_eq, deliverFrom_eq, hattempt, hendpoint, ha]
    simp only [hv]
  | case2 n t outcome t' ha e hv =>
    rw [deliverFrom_eq, deliverFrom_eq, hattempt, hendpoint, ha]
    simp only [hv]
  | case3 n t outcome t' ha pause hv ih =>
    rw [deliverFrom_eq, deliverFrom_eq, hattempt, hendpoint, ha]
    simp only [hv, hpause]
    exact ih

/-- The wire to one of the managers. -/
def Wires.wire (streaming : Bool) (w : Wires) : Wire := if streaming then w.streaming else w.fabric

/-- Another wire to one of the managers. -/
def Wires.put (streaming : Bool) (w : Wires) (wire : Wire) : Wires :=
  if streaming then ⟨w.fabric, wire⟩ else ⟨wire, w.streaming⟩

theorem Wires.wire_put (b streaming : Bool) (w : Wires) (wire : Wire) :
    (w.put streaming wire).wire b = if streaming = b then wire else w.wire b := by
  cases b <;> cases streaming <;> rfl

/-- The messages that are for one of the managers, in order. -/
def forManager (streaming : Bool) (messages : List Outgoing) : List Outgoing :=
  if streaming then forStreaming messages else forFabric messages

theorem forManager_append (streaming : Bool) (xs ys : List Outgoing) :
    forManager streaming (xs ++ ys) = forManager streaming xs ++ forManager streaming ys := by
  cases streaming
  · exact forFabric_append xs ys
  · exact forStreaming_append xs ys

theorem forManager_singleton (streaming : Bool) (o : Outgoing) :
    forManager streaming [o] = if o.isForStreaming = streaming then [o] else [] := by
  cases o <;> cases streaming <;> rfl

theorem mem_forManager {streaming : Bool} {messages : List Outgoing} {o : Outgoing} :
    o ∈ forManager streaming messages ↔ o ∈ messages ∧ o.isForStreaming = streaming := by
  cases streaming <;> simp [forManager, forFabric, forStreaming]

section Calls

variable {fabric streaming : Connection} {retry : RetryPolicy} {limit : Nat} {w : Wires}

/-- A message takes the wire to its manager. -/
theorem Wires.deliver_eq (fabric streaming : Connection) (retry : RetryPolicy) (o : Outgoing)
    (w : Wires) :
    ((links fabric streaming retry).channel o).deliver retry o.kind o.frame w =
      let result := (Wire.channel (if o.isForStreaming then streaming else fabric)).deliver retry
        o.kind o.frame (w.wire o.isForStreaming)
      (result.1, w.put o.isForStreaming result.2) := by
  unfold Links.channel
  cases o.isForStreaming with
  | true =>
    exact Channel.deliverFrom_part (links fabric streaming retry).streaming (Wire.channel streaming)
      (fun wire => ⟨w.fabric, wire⟩) rfl (fun _ => rfl) (fun _ _ => rfl) retry o.kind 0 w.streaming
  | false =>
    exact Channel.deliverFrom_part (links fabric streaming retry).fabric (Wire.channel fabric)
      (fun wire => ⟨wire, w.streaming⟩) rfl (fun _ => rfl) (fun _ _ => rfl) retry o.kind 0 w.fabric

namespace Session

variable {x : Session Wires}

/-- The wires carry what was answered well, and nothing else. -/
structure Carried (limit : Nat) (x : Session Wires) : Prop where
  clean : ∀ b, (x.state.wire b).Clean
  received : ∀ b, (x.state.wire b).received = frames (forManager b x.delivered)
  fits : ∀ o ∈ x.delivered, o.frame.length ≤ Frame.effectiveLimit limit

theorem delivered_append (x : Session Wires) (d : Distributor) (s : Wires) (o : Outgoing)
    (answer : Except DistributorError Unit) :
    delivered ⟨d, s, x.log ++ [(o, answer)]⟩ = x.delivered ++ if answer.isOk then [o] else [] := by
  cases answer with
  | ok u => exact delivered_ok x d s o
  | error e => exact (delivered_error x d s o e).trans (List.append_nil _).symm

/-- One call adds to what its wire carries if it is answered well. -/
theorem Carried.call (h : x.Carried limit) (hfabric : fabric.limit = limit)
    (hstreaming : streaming.limit = limit) (o : Outgoing) :
    (x.call (Wires.links fabric streaming retry) o).Carried limit := by
  cases hp : x.distributor.permit o with
  | error e =>
    have hsend : x.distributor.send (Wires.links fabric streaming retry) o x.state =
        (.error e, x.distributor, x.state) := by
      simp only [Distributor.send, hp]
    have hsame := delivered_error x x.distributor x.state o e
    rw [Session.call, hsend]
    exact ⟨h.clean, hsame ▸ h.received, hsame ▸ h.fits⟩
  | ok u =>
    obtain ⟨answer, hsend, hanswer⟩ :=
      send_of_permit (Wires.links fabric streaming retry) x.state hp
    have hdeliver := Wires.deliver_eq fabric streaming retry o x.state
    have hlimit : (if o.isForStreaming then streaming else fabric).limit = limit := by
      split
      · exact hstreaming
      · exact hfabric
    obtain ⟨hclean, hreceived, hfits⟩ := (h.clean o.isForStreaming).deliverFrom
      (if o.isForStreaming then streaming else fabric) retry o.kind o.frame 0
    have hretry : (Wires.links fabric streaming retry).retry = retry := rfl
    rw [hretry, hdeliver] at hsend hanswer
    rw [← Channel.deliver, ← hanswer] at hreceived hfits
    rw [hlimit] at hfits
    -- The message is among the delivered ones just if its frame has gone over its wire.
    have hadded : ∀ b, frames (forManager b (if answer.isOk then [o] else [])) =
        if o.isForStreaming = b then (if answer.isOk then [o.frame] else []) else [] := by
      intro b
      split
      · rw [forManager_singleton, apply_ite frames]
        rfl
      · rw [ite_self]
        cases b <;> rfl
    rw [Session.call, hsend]
    refine ⟨fun b => ?_, fun b => ?_, fun m hm => ?_⟩
    · rw [Wires.wire_put]
      split
      · exact hclean
      · exact h.clean b
    · rw [delivered_append, forManager_append, frames_append, ← h.received b, hadded,
        Wires.wire_put]
      split
      · next hb =>
        subst hb
        exact hreceived
      · exact (List.append_nil _).symm
    · rw [delivered_append] at hm
      rcases List.mem_append.1 hm with hm | hm
      · exact h.fits m hm
      · split at hm
        · next hok =>
          obtain rfl := List.mem_singleton.1 hm
          exact hfits hok
        · cases hm

/-- Any calls add to the wires what is answered well. -/
theorem Carried.calls (h : x.Carried limit) (hfabric : fabric.limit = limit)
    (hstreaming : streaming.limit = limit) (messages : List Outgoing) :
    (x.calls (Wires.links fabric streaming retry) messages).Carried limit := by
  induction messages generalizing x with
  | nil => exact h
  | cons o rest ih => exact ih (h.call hfabric hstreaming o)

/-- What was delivered was sent. -/
theorem mem_of_mem_delivered {o : Outgoing} (ho : o ∈ x.delivered) : o ∈ x.messages := by
  obtain ⟨⟨m, answer⟩, hentry, hm⟩ := List.mem_filterMap.1 ho
  cases answer with
  | ok u =>
    obtain rfl : m = o := Option.some.inj hm
    exact List.mem_map_of_mem hentry
  | error e => cases hm

end Session

end Calls

/-! ## Runs with stand-ins -/

/-- The stand-in for one of the managers. -/
def Plan.standIn (streaming : Bool) (plan : Plan) : StandIn :=
  if streaming then Cli.streamingStandIn plan else Cli.fabricStandIn plan

/-- The connections over which a plan sends to the streaming manager. -/
def Plan.toStreaming (plan : Plan) : Connection :=
  ⟨plan.streamingEndpoint, plan.connectTimeout, plan.sendLimit⟩

theorem Plan.standIn_serves {streaming : Bool} {o : Outgoing} (plan : Plan)
    (ho : o.isForStreaming = streaming) : (plan.standIn streaming).Serves o := by
  subst ho
  cases o <;> simp [Plan.standIn, Cli.fabricStandIn, Cli.streamingStandIn, StandIn.Serves,
    Outgoing.isForStreaming]

theorem Plan.limit_standIn (streaming : Bool) (plan : Plan) :
    (plan.standIn streaming).limit = Frame.defaultLimit := by
  cases streaming <;> rfl

namespace Session

/-- What the stand-ins of a run take down of the calls of its distributor. -/
structure TakenDown (plan : Plan) (x : Session Wires) : Prop where
  /-- Whatever is delivered has been written as it is, on a connection of its own. -/
  written : ∀ o ∈ x.delivered,
    Frame.write plan.sendLimit o.frame = .ok (Transmission.ofFrame o.frame).octets
  /-- Each stand-in takes down just what was delivered for its manager, in call order, but for what
  is too long for it. -/
  taken : ∀ b, (plan.standIn b).receiveAll ((x.state.wire b).received.map .ofFrame) =
    ((forManager b x.delivered).filter fun o => o.frame.length ≤ Frame.defaultLimit).map
      Outgoing.received
  /-- Nothing is missed if nothing longer is sent. -/
  complete : plan.sendLimit ≤ Frame.defaultLimit →
    ∀ b, (plan.standIn b).receiveAll ((x.state.wire b).received.map .ofFrame) =
      (forManager b x.delivered).map Outgoing.received

variable {plan : Plan} {w : Wires} {messages : List Outgoing}

/-- What a stand-in takes down of what the wire to it carries. -/
theorem Carried.receiveAll {x : Session Wires} {limit : Nat} (h : x.Carried limit)
    (hreadable : ∀ o ∈ x.delivered, o.Readable) (plan : Plan) (b : Bool) :
    (plan.standIn b).receiveAll ((x.state.wire b).received.map .ofFrame) =
      ((forManager b x.delivered).filter fun o => o.frame.length ≤ Frame.defaultLimit).map
        Outgoing.received := by
  rw [h.received b, StandIn.receiveAll_frames (s := plan.standIn b)]
  · rw [Plan.limit_standIn]
    rfl
  · exact fun o ho => plan.standIn_serves (mem_forManager.1 ho).2
  · exact fun o ho => hreadable o (mem_forManager.1 ho).1
  · exact fun o ho =>
      Nat.lt_of_le_of_lt (h.fits o (mem_forManager.1 ho).1) (Frame.effectiveLimit_lt limit)

/-- The wires of a run carry the calls on a new distributor. -/
theorem carried_of_calls (network : Network) (sockets : List Socket) (plan : Plan)
    (hclean : ∀ b, (w.wire b).Clean) (hunused : ∀ b, (w.wire b).received = [])
    (messages : List Outgoing) :
    ((fresh w).calls (Cli.score network sockets plan).links messages).Carried plan.sendLimit := by
  have hlinks : (Cli.score network sockets plan).links =
      Wires.links plan.toFabric plan.toStreaming plan.retry := rfl
  have hfresh : (fresh w).Carried plan.sendLimit :=
    ⟨hclean, fun b => (hunused b).trans (by cases b <;> rfl), List.forall_mem_nil _⟩
  rw [hlinks]
  exact hfresh.calls rfl rfl messages

/-- Whatever the settings are, the stand-ins of a run take down just what counts as delivered, as it
was sent and in call order, but for messages that are longer than their limit. -/
theorem taken_down_by_standIns (settings : Settings) (network : Network) (sockets : List Socket)
    (hclean : ∀ b, (w.wire b).Clean) (hunused : ∀ b, (w.wire b).received = [])
    (hreadable : ∀ o ∈ messages, o.Readable) :
    TakenDown (.ofSettings settings)
      ((fresh w).calls (Cli.score network sockets (.ofSettings settings)).links messages) := by
  have hcarried := carried_of_calls network sockets (.ofSettings settings) hclean hunused messages
  generalize hx :
    (fresh w).calls (Cli.score network sockets (.ofSettings settings)).links messages = x
    at hcarried ⊢
  have hdelivered : ∀ o ∈ x.delivered, o.Readable := by
    intro o ho
    have hsent : o ∈ x.messages := mem_of_mem_delivered ho
    rw [← hx, Session.messages, map_fst_log_calls] at hsent
    exact hreadable o hsent
  have htaken := hcarried.receiveAll hdelivered (.ofSettings settings)
  refine ⟨fun o ho => ?_, htaken, fun hlimit b => ?_⟩
  · have hcheck : Frame.check (Plan.ofSettings settings).sendLimit o.frame.length = .ok () :=
      if_neg (Nat.not_lt.2 (hcarried.fits o ho))
    rw [Frame.write, hcheck]
    rfl
  · rw [htaken b, List.filter_eq_self.2]
    intro o ho
    have hfits := hcarried.fits o (mem_forManager.1 ho).1
    have hsmall : Frame.effectiveLimit (Plan.ofSettings settings).sendLimit ≤ Frame.defaultLimit :=
      Nat.le_trans (Nat.min_le_left ..) hlimit
    exact decide_eq_true (Nat.le_trans hfits hsmall)

/-- With the standard settings, both managers' stand-ins take down what is delivered, though the
first attempt finds no way to the fabric manager. -/
theorem taken_down_after_retry :
    let plan := Plan.ofSettings (.standard "/root")
    let x := (fresh { fabric := { passages := [.unreachable] } }).calls
      (Cli.score .open [] plan).links [.init [⟨1, "map(dIP)"⟩], .streamConfig [⟨1, "identity"⟩]]
    TakenDown plan x ∧
      x.delivered = [.init [⟨1, "map(dIP)"⟩], .streamConfig [⟨1, "identity"⟩]] := by
  intro plan x
  have hclean : ∀ b, (({ fabric := { passages := [.unreachable] } } : Wires).wire b).Clean := by
    intro b
    cases b with
    | false => exact ⟨List.forall_mem_singleton.2 rfl, rfl⟩
    | true => exact ⟨List.forall_mem_nil _, rfl⟩
  have hunused : ∀ b,
      (({ fabric := { passages := [.unreachable] } } : Wires).wire b).received = [] := by
    decide
  refine ⟨taken_down_by_standIns (.standard "/root") .open [] hclean hunused ?_, by decide +kernel⟩
  exact List.forall_mem_cons.2 ⟨(Outgoing.readable_queries _).1,
    List.forall_mem_singleton.2 (Outgoing.readable_queries _).2.2⟩

end Session

/-! ## A message between the limits -/

theorem Json.length_printString_replicate (n : Nat) :
    (printString (.ofList (List.replicate n 'x'))).length = n + 2 := by
  have hescaped :
      ((Text.utf8 (.ofList (List.replicate n 'x'))).flatMap escapeOctet).length = n := by
    induction n with
    | zero => rfl
    | succ n ih =>
      rw [List.replicate_succ, Text.utf8_ofList_cons, List.flatMap_append, List.length_append, ih,
        Nat.add_comm]
      rfl
  rw [printString, List.cons_append, List.length_cons, List.length_append, hescaped]
  rfl

/-- The initial configuration with one query of the given length. -/
def Outgoing.initOfLength (n : Nat) : Outgoing := .init [⟨1, .ofList (List.replicate n 'x')⟩]

theorem Outgoing.length_frame_initOfLength (n : Nat) :
    (initOfLength n).frame.length = n + 68 := by
  have hprint (s : String) : Json.print (.string s) = Json.printString s := rfl
  have harray (v : Json) : (Json.print (.array [v])).length = (Json.print v).length + 2 := by
    simp only [Json.print, Json.printItems, Json.printMoreItems, List.length_append,
      List.length_cons, List.length_nil]
  have hqueries : CompiledQuery.listToJson [⟨1, .ofList (List.replicate n 'x')⟩] =
      .array [.object [("qid", .ofNat 1), ("expr", .string (.ofList (List.replicate n 'x')))]] :=
    rfl
  have hversion : (Json.printString "version").length = 9 := by decide
  have hbody : (Json.printString "body").length = 6 := by decide
  have hkind : (Json.printString "kind").length = 6 := by decide
  have hinit : (Json.printString "init").length = 6 := by decide
  have hkey : (Json.printString "queries").length = 9 := by decide
  have hqid : (Json.printString "qid").length = 5 := by decide
  have hexpr : (Json.printString "expr").length = 6 := by decide
  have hone : (Json.print (.ofNat 1)).length = 1 := by decide
  have hprotocol : (Json.print (.ofNat protocolVersion)).length = 1 := by decide
  simp only [initOfLength, frame, ConfigMessage.encode, encodeBody, envelope, ConfigMessage.toJson,
    hqueries, harray, Json.length_print_pair, hprint, Json.length_printString_replicate]
  omega

namespace Session

/-- The first initial configuration is delivered by its first attempt if it is not too long to be
sent. -/
theorem log_of_fits {plan : Plan} (network : Network) (sockets : List Socket)
    (queries : List CompiledQuery)
    (hfits : (Outgoing.init queries).frame.length ≤ Frame.effectiveLimit plan.sendLimit) :
    ((fresh {}).calls (Cli.score network sockets plan).links [.init queries]).log =
      [(.init queries, .ok ())] := by
  have houtcome : (Wire.channel plan.toFabric).outcomeAfter plan.retry (Outgoing.init queries).frame
      {} 0 = .ok () :=
    (plan.toFabric.attempt_unhindered _).trans (if_neg (Nat.not_lt.2 hfits))
  have hdeliver := (Wire.channel plan.toFabric).deliver_of_success plan.retry .init
    (Outgoing.init queries).frame {} plan.retry.one_le_allowed (fun i hi => absurd hi i.not_lt_zero)
    houtcome
  have hresult := Wires.deliver_eq plan.toFabric plan.toStreaming plan.retry (.init queries) {}
  obtain ⟨answer, hsend, hanswer⟩ := send_of_permit (d := .fresh) (o := .init queries)
    (Wires.links plan.toFabric plan.toStreaming plan.retry) {} rfl
  have hok : answer = .ok () := by
    rw [show (Wires.links plan.toFabric plan.toStreaming plan.retry).retry = plan.retry from rfl,
      hresult] at hanswer
    have hdelivered : answer.isOk = true := hanswer.trans (congrArg (·.1.isOk) hdeliver)
    cases answer with
    | ok u => rfl
    | error e => cases hdelivered
  have hlinks : (Cli.score network sockets plan).links =
      Wires.links plan.toFabric plan.toStreaming plan.retry := rfl
  rw [hlinks, calls, List.foldl_cons, List.foldl_nil, call, fresh, hsend, hok]
  rfl

/-- A configuration file that allows longer frames to be sent than the stand-ins accept. -/
def wide : String := "[feedback]\nmax_frame_length = 16777216\n"

/-- The initial configuration counts as delivered, and the fabric manager's stand-in takes nothing
down. -/
theorem configuration_lost : ∃ settings,
    Settings.ofOctets (some (.ofText "/home/sonata")) (Text.utf8 wide) = .ok settings ∧
      let plan := Plan.ofSettings settings
      let message := Outgoing.initOfLength Frame.defaultLimit
      let x := (fresh {}).calls (Cli.score .open [] plan).links [message]
      message.Readable ∧ x.log = [(message, .ok ())] ∧
        (plan.standIn false).receiveAll ((x.state.wire false).received.map .ofFrame) = [] := by
  let settings :=
    { Settings.standard (some (.ofText "/home/sonata")) with maxFrameLength := 16777216 }
  let message := Outgoing.initOfLength Frame.defaultLimit
  have hsettings : Settings.ofOctets (some (.ofText "/home/sonata")) (Text.utf8 wide) =
      .ok settings := by
    decide +kernel
  have hreadable : message.Readable := (Outgoing.readable_queries _).1
  -- The frame is sixty-eight octets longer than the stand-ins accept, and far from the other limit.
  have hlength : message.frame.length = 8388608 + 68 := Outgoing.length_frame_initOfLength _
  have hlimit : Frame.effectiveLimit (Plan.ofSettings settings).sendLimit = 16777216 := by
    decide +kernel
  have hlog : ((fresh {}).calls (Cli.score .open [] (.ofSettings settings)).links [message]).log =
      [(message, .ok ())] := by
    refine log_of_fits .open [] _ ?_
    rw [hlimit]
    exact hlength.trans_le (by decide)
  refine ⟨settings, hsettings, hreadable, hlog, ?_⟩
  have hcarried := carried_of_calls (w := {}) .open [] (.ofSettings settings)
    (fun b => by cases b <;> exact ⟨List.forall_mem_nil _, rfl⟩) (by decide) [message]
  have hdelivered : ((fresh {}).calls (Cli.score .open [] (.ofSettings settings)).links
      [message]).delivered = [message] := by
    rw [delivered, hlog]
    rfl
  have hlong : ¬decide (message.frame.length ≤ Frame.defaultLimit) = true := by
    rw [hlength]
    decide
  have hnone : [message].filter (fun o => o.frame.length ≤ Frame.defaultLimit) = [] :=
    List.filter_eq_nil_iff.2 (List.forall_mem_singleton.2 hlong)
  rw [hcarried.receiveAll (by rw [hdelivered]; exact List.forall_mem_singleton.2 hreadable),
    hdelivered, show forManager false [message] = [message] from rfl, hnone]
  rfl

end Session

end ControlPlane
