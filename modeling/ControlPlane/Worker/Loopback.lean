import ControlPlane.Feedback.Reception
import ControlPlane.Worker.Basic

/-!
# Stand-ins for the managers

A stand-in listens on the address of a manager and takes down every message that it can decode. It
accepts one connection after another and looks at the first frame of each.

## Main definitions

- `Received`: a message that a stand-in has taken down.
- `StandIn`: a stand-in for one of the managers.
- `StandIn.receive`: what it makes of one connection.
-/

namespace ControlPlane

/-- A message that a stand-in has taken down. -/
inductive Received
  | config (message : ConfigMessage)
  | stream (message : StreamConfig)
deriving DecidableEq

/-- The frame that carries a message again. -/
def Received.encode : Received → List UInt8
  | .config m => m.encode
  | .stream m => m.encode

/-- A stand-in for one of the managers. -/
structure StandIn where
  kind : WorkerKind
  address : String
  /-- The longest frame that it accepts. -/
  limit : Nat := Frame.defaultLimit
deriving DecidableEq

namespace StandIn

/-- What a stand-in makes of listening on its address. -/
def bind {α : Type} (s : StandIn) (bound : Except SystemError α) : Except WorkerError α :=
  bound.mapError (.bind s.kind s.address)

/-- The message that a frame carries to the manager. -/
def decode (s : StandIn) (frame : List UInt8) : Option Received :=
  match s.kind with
  | .streamingManager => (StreamConfig.decode frame).toOption.map .stream
  | _ => (ConfigMessage.decode frame).toOption.map .config

/-- The message that a connection carries to the manager. -/
def receive (s : StandIn) (t : Transmission) : Option Received :=
  (t.frame? s.limit).bind s.decode

/-- The messages of several connections, in order. -/
def receiveAll (s : StandIn) (ts : List Transmission) : List Received := ts.filterMap s.receive

end StandIn

end ControlPlane
