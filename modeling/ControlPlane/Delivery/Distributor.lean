import ControlPlane.Delivery.Channel

/-!
# The distributor

The distributor sends compiled queries to the two managers. The fabric manager gets one initial
configuration and then changes to it; the streaming manager gets its whole configuration each time.

## Main definitions

- `Outgoing`: the messages that are sent.
- `Distributor`: what has been sent.
- `Distributor.permit`, `Distributor.conclude`: what comes before a delivery and after it.
- `Distributor.send`: a message is sent, with all the attempts that it takes.

## Design notes

The initial configuration may be sent once, whether or not its delivery succeeds: after a failed
delivery nobody knows what the fabric manager has, so nothing more is sent to it.
-/

namespace ControlPlane

/-- A message to one of the managers. -/
inductive Outgoing
  /-- The whole configuration, for the fabric manager. -/
  | init (queries : List CompiledQuery)
  /-- A change, for the fabric manager. -/
  | delta (content : DeltaContent)
  /-- The whole configuration, for the streaming manager. -/
  | streamConfig (queries : List CompiledQuery)
deriving DecidableEq

namespace Outgoing

/-- The kind of a message. -/
def kind : Outgoing → MessageKind
  | .init _ => .init
  | .delta _ => .delta
  | .streamConfig _ => .streamConfig

/-- The frame that carries a message. -/
def frame : Outgoing → List UInt8
  | .init queries => (ConfigMessage.init queries).encode
  | .delta content => (ConfigMessage.delta content).encode
  | .streamConfig queries => (StreamConfig.mk queries).encode

/-- Whether a message goes to the streaming manager, rather than to the fabric manager. -/
def isForStreaming : Outgoing → Bool
  | .streamConfig _ => true
  | _ => false

end Outgoing

/-- The channels to the managers, over one state of everything behind them. -/
structure Links (σ : Type) where
  fabric : Channel σ
  streaming : Channel σ
  retry : RetryPolicy

/-- The channel that a message takes. -/
def Links.channel {σ : Type} (links : Links σ) (o : Outgoing) : Channel σ :=
  if o.isForStreaming then links.streaming else links.fabric

/-- Where the fabric manager stands. -/
inductive InitState
  /-- The initial configuration has not been sent. -/
  | pending
  | sent
  /-- The delivery of the initial configuration was given up. -/
  | failed
deriving DecidableEq

/-- What the distributor has sent. The numbers of changes and of configurations wrap around at
`2 ^ 64`. -/
structure Distributor where
  initial : InitState
  deltas : UInt64
  streamConfigs : UInt64
deriving DecidableEq

namespace Distributor

/-- A distributor that has sent nothing. -/
def fresh : Distributor := ⟨.pending, 0, 0⟩

/-- Whether the initial configuration has been delivered. -/
def isInitialized (d : Distributor) : Bool := d.initial == .sent

/-- Whether a message may be sent now: the initial configuration only as the first one, changes only
after it. -/
def permit (d : Distributor) : Outgoing → Except DistributorError Unit
  | .init _ => if d.initial = .pending then .ok () else .error .alreadyInitialized
  | .delta _ => if d.initial = .sent then .ok () else .error .notInitialized
  | .streamConfig _ => .ok ()

/-- The distributor after the delivery of a permitted message has succeeded or was given up. -/
def conclude (d : Distributor) (delivered : Bool) : Outgoing → Distributor
  | .init _ => { d with initial := if delivered then .sent else .failed }
  | .delta _ => if delivered then { d with deltas := d.deltas + 1 } else d
  | .streamConfig _ => if delivered then { d with streamConfigs := d.streamConfigs + 1 } else d

/-- Sends a message. -/
def send {σ : Type} (links : Links σ) (o : Outgoing) (d : Distributor) (s : σ) :
    Except DistributorError Unit × Distributor × σ :=
  match d.permit o with
  | .error e => (.error e, d, s)
  | .ok () =>
    match (links.channel o).deliver links.retry o.kind o.frame s with
    | (.ok _, s) => (.ok (), d.conclude true o, s)
    | (.error e, s) => (.error e, d.conclude false o, s)

end Distributor

end ControlPlane
