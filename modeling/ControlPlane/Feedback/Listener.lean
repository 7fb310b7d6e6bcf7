import ControlPlane.Delivery.Desk
import ControlPlane.Feedback.Basic
import ControlPlane.Feedback.Reception

/-!
# The output listener

The listener accepts connections of producers. Each connection has a reader of its own, which puts
the event that it reads into a queue; the listener takes the events out of the queue one by one and
forwards them to the fabric manager. The queue has a bound, and a reader that finds it full waits.

## Main definitions

- `Listener.Reader`: a connection that was accepted.
- `Listener`: the listener with its readers and its queue.
- `Listener.Move`: what the listener or a reader may do.
- `Listener.next`: what comes of it.
- `Listener.Reaches`: what may come of a listener and a distributor that others use, too.

## Design notes

Once it has been told to stop, the listener does nothing but end, even while it waits for the
distributor's desk or between two attempts of a delivery. Readers are not told to stop; an event
that they read after the listener has ended is discarded.
-/

namespace ControlPlane

/-- A connection that was accepted. -/
inductive Listener.Reader
  | reading (transmission : Transmission)
  /-- It has read an event, which waits for room in the queue. -/
  | holding (event : OutputEvent)
  /-- Its event has entered the queue. -/
  | served (event : OutputEvent)
  /-- It gave no event, or its event was discarded. -/
  | dropped
deriving DecidableEq

/-- What a reader has after its connection, with frames of at most `limit` octets. -/
def Listener.Reader.afterReading (limit : Nat) (t : Transmission) (inTime : Bool) :
    Listener.Reader :=
  if inTime then
    match t.event? limit with
    | some event => .holding event
    | none => .dropped
  else .dropped

/-- What the listener is doing. -/
inductive Listener.Phase
  | idle
  /-- It has an event in hand and waits for the distributor's desk. -/
  | waiting (event : OutputEvent)
  /-- It is at the desk and delivers an event. -/
  | sending (event : OutputEvent) (parcel : Parcel)
  | ended (outcome : Except FeedbackError Unit)
deriving DecidableEq

/-- The output listener. -/
structure Listener where
  phase : Listener.Phase := .idle
  /-- The connections, in the order in which they were accepted. -/
  readers : List Listener.Reader := []
  queue : List OutputEvent := []
  /-- All events that have ever entered the queue, in order. -/
  entered : List OutputEvent := []
  /-- All events that have been forwarded, in order. -/
  forwarded : List OutputEvent := []
deriving DecidableEq

namespace Listener

/-- The number of events that the queue has room for. -/
def capacity : Nat := 64

/-- What the listener or a reader may do. -/
inductive Move
  /-- A connection is accepted. -/
  | accept (transmission : Transmission)
  /-- A reader has read its connection, or has run out of patience. -/
  | read (reader : Nat) (inTime : Bool)
  /-- A reader hands its event over. -/
  | enqueue (reader : Nat)
  /-- The listener takes an event from the queue. -/
  | dequeue
  /-- The listener comes to the distributor's desk. -/
  | approach
  /-- An attempt to deliver the event has its outcome. -/
  | attempt (outcome : Except ChannelError Unit)
  /-- The listener sees that it has been told to stop. -/
  | stop
deriving DecidableEq

/-- Whether the listener has ended. -/
def hasEnded (l : Listener) : Bool :=
  match l.phase with
  | .ended _ => true
  | _ => false

/-- The listener leaves the desk and goes on with `phase`. -/
def depart (l : Listener) (d : Desk) (phase : Phase) : Listener × Desk :=
  ({ l with phase }, d.leave)

/-- The listener after some progress in the delivery of an event. -/
def progress (l : Listener) (d : Desk) (event : OutputEvent) :
    Parcel.Progress → Listener × Desk
  | .underway parcel => ({ l with phase := .sending event parcel }, d)
  | .over (.ok ()) => { l with forwarded := l.forwarded ++ [event] }.depart d .idle
  | .over (.error e) => l.depart d (.ended (.error (.forward e)))

/-- The listener and the distributor's desk after a move, if it can be made now. Frames of at most
`limit` octets are accepted, and `cancelled` says whether the listener has been told to stop. -/
def next (t : Terms) (limit : Nat) (cancelled : Bool) (l : Listener) (d : Desk) :
    Move → Option (Listener × Desk)
  | .accept transmission =>
    if l.phase = .idle ∧ ¬ cancelled ∧ l.queue = [] then
      some ({ l with readers := l.readers ++ [.reading transmission] }, d)
    else none
  | .read reader inTime =>
    match l.readers[reader]? with
    | some (.reading transmission) =>
      some ({ l with
        readers := l.readers.set reader (Reader.afterReading limit transmission inTime) }, d)
    | _ => none
  | .enqueue reader =>
    match l.readers[reader]? with
    | some (.holding event) =>
      if l.hasEnded then some ({ l with readers := l.readers.set reader .dropped }, d)
      else if l.queue.length < capacity then
        some ({ l with
          readers := l.readers.set reader (.served event)
          queue := l.queue ++ [event]
          entered := l.entered ++ [event] }, d)
      else none
    | _ => none
  | .dequeue =>
    match l.phase, l.queue with
    | .idle, event :: rest =>
      if cancelled then none else some ({ l with phase := .waiting event, queue := rest }, d)
    | _, _ => none
  | .approach =>
    match l.phase with
    | .waiting event =>
      if cancelled then none
      else (d.take .listener).map fun d => l.progress d event (d.begin [.delta (.output event)])
    | _ => none
  | .attempt outcome =>
    match l.phase with
    | .sending event parcel =>
      if cancelled then none
      else
        let (d, progress) := d.attempt t parcel outcome
        some (l.progress d event progress)
    | _ => none
  | .stop =>
    if cancelled then
      match l.phase with
      | .idle => some ({ l with phase := .ended (.ok ()) }, d)
      | .waiting _ => some ({ l with phase := .ended (.ok ()) }, d)
      | .sending _ _ => some (l.depart d (.ended (.ok ())))
      | .ended _ => none
    else none

/-- A listener, a distributor's desk that others use as well, and whether the listener has been told
to stop. -/
structure Office where
  listener : Listener := {}
  desk : Desk
  cancelled : Bool := false
deriving DecidableEq

/-- What may happen to a listener. -/
inductive Step (t : Terms) (limit : Nat) : Office → Office → Prop
  | move (m : Move) {o : Office} {l : Listener} {d : Desk}
      (h : o.listener.next t limit o.cancelled o.desk m = some (l, d)) :
      Step t limit o { o with listener := l, desk := d }
  /-- Others do something at the desk; what the listener is delivering stays its own. -/
  | others (o : Office) (d : Desk) (h : o.desk.holder ≠ some .listener)
      (h' : d.holder ≠ some .listener) : Step t limit o { o with desk := d }
  | cancel (o : Office) : Step t limit o { o with cancelled := true }

/-- What may come of a listener. -/
inductive Reaches (t : Terms) (limit : Nat) (o : Office) : Office → Prop
  | refl : Reaches t limit o o
  | tail {p q : Office} : Reaches t limit o p → Step t limit p q → Reaches t limit o q

end Listener

end ControlPlane
