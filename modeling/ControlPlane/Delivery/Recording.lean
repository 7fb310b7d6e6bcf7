import ControlPlane.Delivery.Distributor

/-!
# Recorded deliveries

A pair of endpoints that write down every attempt, with the instant at which it was made. An
endpoint refuses attempts in a planned way and then accepts all further ones.

## Main definitions

- `Refusal`: a planned failure of one attempt.
- `Recording`: what both endpoints have seen.
- `Recording.links`: the channels to them.
-/

namespace ControlPlane

/-- A planned failure of one attempt. -/
inductive Refusal
  /-- Nothing accepts the connection. -/
  | refused
  | timeout (limit : Duration)
  /-- The peer closes the connection. -/
  | closed
  /-- The connection breaks. -/
  | broken
deriving DecidableEq

/-- The error of a refused attempt. -/
def Refusal.error (endpoint : String) : Refusal → ChannelError
  | .refused => .unavailable endpoint (.stream .other "refused")
  | .timeout limit => .timeout endpoint limit
  | .closed => .send endpoint .closed
  | .broken => .send endpoint (.stream (.stream .other "broken"))

/-- One attempt: when it was made, and the frame if it was handed over. -/
structure Attempt where
  /-- The instant, in nanoseconds. -/
  instant : Nat
  frame : Option (List UInt8)
deriving DecidableEq

/-- What one endpoint plans and has seen. -/
structure Tape where
  /-- The failures of the attempts to come; further ones succeed. -/
  refusals : List Refusal := []
  /-- The attempts so far. -/
  attempts : List Attempt := []
deriving DecidableEq

/-- The frames that an endpoint has received. -/
def Tape.received (t : Tape) : List (List UInt8) := t.attempts.filterMap (·.frame)

/-- One attempt, written down. -/
def Tape.attempt (t : Tape) (endpoint : String) (now : Nat) (frame : List UInt8) :
    Except ChannelError Unit × Tape :=
  match t.refusals with
  | [] => (.ok (), { t with attempts := t.attempts ++ [⟨now, some frame⟩] })
  | r :: rest =>
    (.error (r.error endpoint), ⟨rest, t.attempts ++ [⟨now, none⟩]⟩)

/-- What both endpoints have seen, and the present instant. -/
structure Recording where
  /-- The present instant, in nanoseconds. -/
  now : Nat := 0
  fabric : Tape := {}
  streaming : Tape := {}
deriving DecidableEq

namespace Recording

/-- Sleeps for a time. -/
def wait (d : Duration) (r : Recording) : Recording := { r with now := r.now + d.slept.nanos }

/-- The channel to the fabric manager's endpoint. -/
def fabricChannel (endpoint : String) : Channel Recording where
  endpoint := endpoint
  attempt frame r :=
    let (outcome, tape) := r.fabric.attempt endpoint r.now frame
    (outcome, { r with fabric := tape })
  pause := wait

/-- The channel to the streaming manager's endpoint. -/
def streamingChannel (endpoint : String) : Channel Recording where
  endpoint := endpoint
  attempt frame r :=
    let (outcome, tape) := r.streaming.attempt endpoint r.now frame
    (outcome, { r with streaming := tape })
  pause := wait

/-- The channels to both endpoints. -/
def links (fabric streaming : String) (retry : RetryPolicy) : Links Recording :=
  ⟨fabricChannel fabric, streamingChannel streaming, retry⟩

end Recording

end ControlPlane
