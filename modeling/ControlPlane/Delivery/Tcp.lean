import ControlPlane.Delivery.Distributor
import ControlPlane.Frame

/-!
# Deliveries over connections

An attempt opens a connection, writes one frame and shuts the connection down. Each of these can
fail or take too long; looking up the address belongs to the first. The peer has the frame as soon
as it is written, whatever becomes of the attempt after that.

## Main definitions

- `Passage`: how the three parts of an attempt go.
- `Connection.attempt`: what an attempt gives, and whether the peer has the frame.
- `Wire`, `Wire.channel`: an endpoint behind a network, and the channel to it.
-/

namespace ControlPlane

/-- How one part of an attempt goes. -/
inductive Passage.Part
  | done
  | failed (source : SystemError)
  /-- It takes longer than the sender waits. -/
  | expired
deriving DecidableEq

/-- How the three parts of an attempt go. -/
structure Passage where
  connect : Passage.Part := .done
  write : Passage.Part := .done
  shutdown : Passage.Part := .done
deriving DecidableEq

/-- An attempt for which there is no way to the endpoint. -/
def Passage.unreachable : Passage := { connect := .failed .networkUnreachable }

/-- How connections to an endpoint are used. -/
structure Connection where
  endpoint : String
  /-- The bound on connecting, and on handing over the frame. -/
  timeout : Duration
  /-- The longest frame that is written. -/
  limit : Nat
deriving DecidableEq

namespace Connection

variable (c : Connection)

/-- The error of a part that could not be done, where `failure` is the one for its own failures. -/
def partError (failure : SystemError → ChannelError) : Passage.Part → Option ChannelError
  | .done => none
  | .failed source => some (failure source)
  | .expired => some (.timeout c.endpoint c.timeout)

/-- What an attempt to hand over a frame of the given length gives, and whether the peer has the
frame then. -/
def attempt (p : Passage) (length : Nat) : Except ChannelError Unit × Bool :=
  match c.partError (.unavailable c.endpoint) p.connect with
  | some e => (.error e, false)
  | none =>
    match Frame.check c.limit length with
    | .error source => (.error (.send c.endpoint (.stream source)), false)
    | .ok _ =>
      match c.partError (fun source => .send c.endpoint (.stream source)) p.write with
      | some e => (.error e, false)
      | none =>
        match c.partError (fun source => .send c.endpoint (.stream source)) p.shutdown with
        | some e => (.error e, true)
        | none => (.ok (), true)

end Connection

/-- An endpoint behind a network. -/
structure Wire where
  /-- How the attempts to come will go. -/
  passages : List Passage := []
  /-- How all attempts after those will go. -/
  later : Passage := {}
  /-- The frames that the endpoint has received. -/
  received : List (List UInt8) := []
deriving DecidableEq

namespace Wire

/-- One attempt over a wire. -/
def attempt (c : Connection) (frame : List UInt8) (w : Wire) : Except ChannelError Unit × Wire :=
  let (outcome, arrived) := c.attempt (w.passages.headD w.later) frame.length
  (outcome,
    { w with
      passages := w.passages.tail
      received := if arrived then w.received ++ [frame] else w.received })

/-- The channel to the endpoint behind a wire. -/
def channel (c : Connection) : Channel Wire where
  endpoint := c.endpoint
  attempt := attempt c
  pause _ w := w

end Wire

/-- The wires to both managers. -/
structure Wires where
  fabric : Wire := {}
  streaming : Wire := {}
deriving DecidableEq

/-- The channels to both managers. -/
def Wires.links (fabric streaming : Connection) (retry : RetryPolicy) : Links Wires where
  fabric :=
    { endpoint := fabric.endpoint
      attempt := fun frame w =>
        let (outcome, wire) := w.fabric.attempt fabric frame
        (outcome, { w with fabric := wire })
      pause := fun _ w => w }
  streaming :=
    { endpoint := streaming.endpoint
      attempt := fun frame w =>
        let (outcome, wire) := w.streaming.attempt streaming frame
        (outcome, { w with streaming := wire })
      pause := fun _ w => w }
  retry := retry

end ControlPlane
