import ControlPlane.Delivery.Distributor
import ControlPlane.Outcome

/-!
# The distributor's desk

Several parties use one distributor. Only one of them is at its desk at a time, and the others wait
until the desk is free. Whoever is at the desk delivers its messages one after another, attempt by
attempt, and the endpoints receive what is handed over.

## Main definitions

- `Party`: who may be at the desk.
- `Terms`: how deliveries are retried, and where they go.
- `Desk`: the distributor, who uses it, and what the endpoints have received.
- `Parcel`: messages that their sender is delivering.
- `Desk.begin`, `Desk.attempt`: a delivery begins, and an attempt has its outcome.
-/

namespace ControlPlane

/-- Who may use the distributor. -/
inductive Party
  /-- Whoever runs the control plane. -/
  | runner
  /-- The output listener. -/
  | listener
  /-- Somebody who asks for a refinement. -/
  | caller (number : Nat)
deriving DecidableEq

/-- How deliveries are retried, and where they go. -/
structure Terms where
  retry : RetryPolicy
  /-- The endpoint of the fabric manager. -/
  fabric : String
  /-- The endpoint of the streaming manager. -/
  streaming : String
deriving DecidableEq

/-- The endpoint of a message. -/
def Terms.endpoint (t : Terms) (o : Outgoing) : String :=
  if o.isForStreaming then t.streaming else t.fabric

/-- The distributor, who uses it, and what the endpoints have received. -/
structure Desk where
  distributor : Distributor := .fresh
  /-- Who is at the desk. -/
  holder : Option Party := none
  /-- The messages that the fabric manager has received. -/
  fabric : List Outgoing := []
  /-- The messages that the streaming manager has received. -/
  streaming : List Outgoing := []
deriving DecidableEq

/-- Messages that their sender is delivering, the first of which has been permitted. -/
structure Parcel where
  message : Outgoing
  /-- The messages after that one. -/
  rest : List Outgoing
  /-- How many attempts to deliver the first message have failed. -/
  failures : Nat := 0
deriving DecidableEq

/-- Where the delivery of messages stands. -/
inductive Parcel.Progress
  | underway (parcel : Parcel)
  | over (outcome : Except DistributorError Unit)
deriving DecidableEq

namespace Desk

/-- The delivery of messages begins: the first of them is permitted or refused. -/
def begin (d : Desk) : List Outgoing → Parcel.Progress
  | [] => .over (.ok ())
  | o :: rest =>
    match d.distributor.permit o with
    | .error e => .over (.error e)
    | .ok () => .underway { message := o, rest }

/-- The endpoint of a message has received it. -/
def receive (d : Desk) (o : Outgoing) : Desk :=
  if o.isForStreaming then { d with streaming := d.streaming ++ [o] }
  else { d with fabric := d.fabric ++ [o] }

/-- The distributor's state when the delivery of a message is over. -/
def conclude (d : Desk) (delivered : Bool) (o : Outgoing) : Desk :=
  { d with distributor := d.distributor.conclude delivered o }

/-- An attempt to deliver the first message of a parcel has its outcome; a failed one hands over
nothing. When a message is delivered, the next one begins. -/
def attempt (t : Terms) (d : Desk) (p : Parcel) (outcome : Except ChannelError Unit) :
    Desk × Parcel.Progress :=
  match t.retry.verdict p.message.kind (t.endpoint p.message) (p.failures + 1) outcome with
  | .delivered _ =>
    let d := (d.receive p.message).conclude true p.message
    (d, d.begin p.rest)
  | .retry _ => (d, .underway { p with failures := p.failures + 1 })
  | .failed e => (d.conclude false p.message, .over (.error e))

/-- A party comes to the desk, if it is free. -/
def take (d : Desk) (party : Party) : Option Desk :=
  if d.holder = none then some { d with holder := some party } else none

/-- Whoever is at the desk leaves it. -/
def leave (d : Desk) : Desk := { d with holder := none }

end Desk

end ControlPlane
