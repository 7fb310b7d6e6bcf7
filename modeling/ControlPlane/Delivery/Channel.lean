import ControlPlane.Delivery.Retry
import ControlPlane.Message.Decoding

/-!
# Channels

A channel hands frames to one endpoint. An attempt succeeds or fails as a whole; the sender does not
learn more than that, and may try again. The delivery loop does so as far as its retry policy
allows.

## Main definitions

- `ChannelError`: why an attempt failed.
- `Channel`: the way to one endpoint, over the states of everything behind it.
- `DistributorError`: why a message was not sent.
- `Channel.deliver`: the delivery loop.
-/

namespace ControlPlane

/-- Why an attempt to hand over a frame failed. -/
inductive ChannelError
  /-- Nothing at the endpoint accepted the connection. -/
  | unavailable (endpoint : String) (source : SystemError)
  /-- The attempt took longer than the limit. -/
  | timeout (endpoint : String) (limit : Duration)
  /-- The connection stood, but the frame could not be written. -/
  | send (endpoint : String) (source : ProtocolError)
deriving DecidableEq

namespace ChannelError

/-- The endpoint of the failed attempt. -/
def endpoint : ChannelError → String
  | .unavailable endpoint _ => endpoint
  | .timeout endpoint _ => endpoint
  | .send endpoint _ => endpoint

/-- The text of an error. -/
def message : ChannelError → String
  | .unavailable endpoint source =>
    "endpoint " ++ endpoint ++ " unavailable: " ++ source.message
  | .timeout endpoint limit =>
    "timed out delivering to " ++ endpoint ++ " after " ++ limit.text
  | .send endpoint source => "failed to deliver to " ++ endpoint ++ ": " ++ source.message

end ChannelError

/-- The kinds of messages that are sent. -/
inductive MessageKind
  | init
  | delta
  | streamConfig
deriving DecidableEq

/-- The name of a kind of message. -/
def MessageKind.name : MessageKind → String
  | .init => "init"
  | .delta => "delta"
  | .streamConfig => "stream_config"

/-- Why a message was not sent. -/
inductive DistributorError
  /-- The initial configuration was sent before, or its delivery has failed. -/
  | alreadyInitialized
  /-- A change came before the initial configuration. -/
  | notInitialized
  | encode (kind : MessageKind) (source : ProtocolError)
  /-- Every attempt failed; the peer may not know what it should. -/
  | gaveUp (kind : MessageKind) (endpoint : String) (attempts : Nat) (source : ChannelError)
deriving DecidableEq

namespace DistributorError

/-- Whether the message came at the wrong time, and no delivery was tried. -/
def isPrecondition : DistributorError → Bool
  | .alreadyInitialized => true
  | .notInitialized => true
  | _ => false

/-- The text of an error. -/
def message : DistributorError → String
  | .alreadyInitialized => "initial configuration was already sent to the fabric manager"
  | .notInitialized => "delta requested before the initial configuration was sent"
  | .encode kind source => "failed to encode " ++ kind.name ++ " message: " ++ source.message
  | .gaveUp kind endpoint attempts source =>
    "giving up on " ++ kind.name ++ " message to " ++ endpoint ++ " after " ++
      toString attempts ++ " attempts: " ++ source.message

end DistributorError

/-- The way to one endpoint, over the states `σ` of everything behind it. -/
structure Channel (σ : Type) where
  endpoint : String
  /-- An attempt to hand over a frame. -/
  attempt : List UInt8 → σ → Except ChannelError Unit × σ
  /-- What happens while the sender pauses. -/
  pause : Duration → σ → σ

/-- What the delivery loop does after an attempt. -/
inductive Verdict
  /-- The frame was delivered by the last of so many attempts. -/
  | delivered (attempts : Nat)
  | retry (pause : Duration)
  | failed (error : DistributorError)
deriving DecidableEq

/-- What follows when the last of `attempts` attempts has ended with `outcome`. -/
def RetryPolicy.verdict (p : RetryPolicy) (kind : MessageKind) (endpoint : String)
    (attempts : Nat) :
    Except ChannelError Unit → Verdict
  | .ok () => .delivered attempts
  | .error e =>
    if p.allowsRetry attempts then .retry (p.backoff attempts)
    else .failed (.gaveUp kind endpoint attempts e)

theorem RetryPolicy.lt_allowed_of_verdict {p : RetryPolicy} {kind : MessageKind} {endpoint : String}
    {attempts : Nat} {outcome : Except ChannelError Unit} {pause : Duration}
    (h : p.verdict kind endpoint attempts outcome = .retry pause) : attempts < p.allowed := by
  unfold verdict at h
  split at h
  · cases h
  · split at h
    · simp_all [allowsRetry]
    · cases h

namespace Channel

variable {σ : Type}

/-- The delivery loop after `attempts` failed attempts; it answers how many attempts it took. -/
def deliverFrom (c : Channel σ) (p : RetryPolicy) (kind : MessageKind) (frame : List UInt8)
    (attempts : Nat) (s : σ) : Except DistributorError Nat × σ :=
  let (outcome, s) := c.attempt frame s
  match _h : p.verdict kind c.endpoint (attempts + 1) outcome with
  | .delivered attempts => (.ok attempts, s)
  | .failed e => (.error e, s)
  | .retry pause => deliverFrom c p kind frame (attempts + 1) (c.pause pause s)
termination_by p.allowed - attempts
decreasing_by
  have := RetryPolicy.lt_allowed_of_verdict _h
  omega

/-- The delivery loop: attempts with pauses in between, until one succeeds or no more are
allowed. -/
def deliver (c : Channel σ) (p : RetryPolicy) (kind : MessageKind) (frame : List UInt8) (s : σ) :
    Except DistributorError Nat × σ :=
  c.deliverFrom p kind frame 0 s

end Channel

end ControlPlane
