import ControlPlane.Delivery.Recording
import ControlPlane.Feedback.Listener

/-!
# Rehearsing the output listener

In a rehearsal the output listener and its readers do what they can as soon as they can, and readers
are quicker than their patience.

## Main definitions

- `Intention`: what is done next; the outcome of an attempt is not known before it is made.
- `Listener.intention?`: what a listener and its readers do next.
- `Booth`: a listener by itself, with recorded deliveries.
- `Booth.connect`, `Booth.settle`, `Booth.cancel`: a producer connects, everything is done that can
  be done, and the listener is told to stop.
-/

namespace ControlPlane

/-- What is done next. -/
inductive Rehearsal.Intention
  | move (move : Listener.Move)
  /-- The first message of a parcel is to be delivered. -/
  | attempt (parcel : Parcel)
deriving DecidableEq

open Rehearsal

/-- What a reader does next, if anything. -/
def Listener.Reader.move? (position : Nat) : Listener.Reader → Option Listener.Move
  | .reading _ => some (.read position true)
  | .holding _ => some (.enqueue position)
  | .served _ => none
  | .dropped => none

namespace Listener

/-- What the readers of a listener do next, if anything. -/
def readerMove? (l : Listener) : Option Move :=
  l.readers.zipIdx.findSome? fun (r, position) => r.move? position

/-- What a listener does next by itself, if anything; `free` says whether nobody is at the
distributor's desk. -/
def ownIntention? (cancelled free : Bool) (l : Listener) : Option Intention :=
  match l.phase with
  | .ended _ => none
  | phase =>
    if cancelled then some (.move .stop)
    else
      match phase with
      | .sending _ parcel => some (.attempt parcel)
      | .waiting _ => if free then some (.move .approach) else none
      | _ => if l.queue.isEmpty then none else some (.move .dequeue)

/-- What a listener and its readers do next, if anything. -/
def intention? (cancelled free : Bool) (l : Listener) : Option Intention :=
  match l.readerMove? with
  | some m => some (.move m)
  | none => l.ownIntention? cancelled free

end Listener

namespace Rehearsal

/-- A listener by itself, with recorded deliveries. -/
structure Booth where
  office : Listener.Office
  recording : Recording := {}
  /-- Whether a delivery was retried after the listener had last been idle. -/
  retried : Bool := false

namespace Booth

variable (t : Terms) (limit : Nat)

/-- A move of the listener is made, if it can be made. -/
def move (m : Listener.Move) (b : Booth) : Option Booth :=
  (b.office.listener.next t limit b.office.cancelled b.office.desk m).map fun (listener, desk) =>
    { b with office := { b.office with listener, desk } }

/-- The listener or one of its readers takes its next step, if it can. -/
def step (b : Booth) : Option Booth :=
  match b.office.listener.intention? b.office.cancelled b.office.desk.holder.isNone with
  | none => none
  | some (.move m) => b.move t limit m
  | some (.attempt parcel) =>
    let (outcome, recording) :=
      ((Recording.links t.fabric t.streaming t.retry).channel parcel.message).attempt
        parcel.message.frame b.recording
    { b with recording, retried := b.retried || outcome.isOk.not }.move t limit (.attempt outcome)

/-- At most `fuel` steps are taken; if `impatient`, none after an attempt that has failed. -/
def steps (impatient : Bool) : (fuel : Nat) → Booth → Booth
  | 0, b => b
  | fuel + 1, b =>
    if impatient && b.retried then b
    else
      match b.step t limit with
      | none => b
      | some b => steps impatient fuel b

/-- Everything is done that can be done; if `impatient`, only up to the first attempt that fails. An
event takes four steps and its attempts. -/
def settle (impatient : Bool) (b : Booth) : Booth :=
  let readers := b.office.listener.readers.length + b.office.listener.queue.length + 1
  { b with retried := false }.steps t limit impatient (readers * (4 + t.retry.allowed) + 1)

/-- A producer connects; nothing comes of it unless the connection is accepted. -/
def connect (transmission : Transmission) (b : Booth) : Option Booth :=
  b.move t limit (.accept transmission)

/-- The listener is told to stop. -/
def cancel (b : Booth) : Booth := { b with office.cancelled := true }

/-- How the listener has ended, if it has. -/
def outcome? (b : Booth) : Option (Except FeedbackError Unit) :=
  match b.office.listener.phase with
  | .ended outcome => some outcome
  | _ => none

end Booth

end Rehearsal

end ControlPlane
