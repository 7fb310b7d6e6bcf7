import ControlPlane.Feedback.Basic
import ControlPlane.Frame

/-!
# Receiving events

A producer opens a connection and sends one frame. What the listener makes of the connection depends
on the first frame alone, and a connection that gives no event is passed over.

## Main definitions

- `Transmission`: what a producer sends on one connection.
- `Transmission.frame?`: its first frame.
- `Transmission.event?`: the event that it gives.
-/

namespace ControlPlane

/-- What a producer sends on one connection. -/
structure Transmission where
  octets : List UInt8
  /-- Whether the producer closes its side after that; if not, the reader's patience ends the
  connection. -/
  closes : Bool := true
deriving DecidableEq

namespace Transmission

/-- The connection that carries one frame. -/
def ofFrame (frame : List UInt8) : Transmission := ⟨Frame.lengthOctets frame.length ++ frame, true⟩

/-- The first frame of a connection, if it is complete and not longer than the limit. -/
def frame? (limit : Nat) (t : Transmission) : Option (List UInt8) :=
  match Frame.read limit t.octets with
  | .frame octets _ => some octets
  | _ => none

/-- The event that a connection gives. -/
def event? (limit : Nat) (t : Transmission) : Option OutputEvent :=
  match t.frame? limit with
  | none => none
  | some frame =>
    match OutputEvent.decode frame with
    | .ok event => some event
    | .error _ => none

end Transmission

end ControlPlane
