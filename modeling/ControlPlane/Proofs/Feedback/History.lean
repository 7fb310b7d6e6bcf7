import ControlPlane.Feedback.Listener
import Mathlib.Data.List.Basic

/-!
# What an output listener has done

A listener does not remember its connections, nor what it has made of them. Its history does: every
connection that was accepted, how each reader has finished, what has entered the queue, and what the
managers have received while the listener or one of its readers made a move.

## Main definitions

- `Listener.Record`: an entry of the history.
- `Listener.Office.records`: what a move adds to the history.
- `Listener.Log.accepted`, `Listener.Log.readings`, `Listener.Log.decoded`,
  `Listener.Log.queued`, `Listener.Log.delivered`: what a history tells.
- `Listener.Unfolds`: what may come of a new listener, with its history.

## Main statements

- `Listener.Unfolds.of_reaches`: whatever can be reached has a history.
- `Listener.Unfolds.of_replay`: moves in order have the history that their records make.
-/

namespace ControlPlane

/-- The message that carries an event to the fabric manager. -/
def OutputEvent.change (e : OutputEvent) : Outgoing := .delta (.output e)

/-- What the managers have received between two states of the desk. -/
def Desk.gained (d later : Desk) : List Outgoing :=
  later.fabric.drop d.fabric.length ++ later.streaming.drop d.streaming.length

theorem Desk.gained_of_eq {d later : Desk} (hfabric : later.fabric = d.fabric)
    (hstreaming : later.streaming = d.streaming) : d.gained later = [] := by
  rw [gained, hfabric, hstreaming, List.drop_length, List.drop_length]
  rfl

namespace Listener

/-- How the reader of a connection has finished. -/
structure Reading where
  /-- The connection, by its position among those that were accepted. -/
  connection : Nat
  /-- Whether the producer was quick enough. -/
  inTime : Bool
  /-- What the reader has then. -/
  event : Option OutputEvent
deriving DecidableEq

/-- An entry of the history of a listener. -/
inductive Record
  /-- A connection was accepted. -/
  | accepted (transmission : Transmission)
  /-- A reader has finished. -/
  | finished (reading : Reading)
  /-- The event of a connection has entered the queue. -/
  | queued (connection : Nat) (event : OutputEvent)
  /-- A manager has received a message. -/
  | delivered (message : Outgoing)
deriving DecidableEq

/-- The event that a reader holds. -/
def Reader.held? : Reader → Option OutputEvent
  | .holding event => some event
  | _ => none

/-- The event that the reader of a connection holds, with the connection. -/
def Reader.heldAt (i : Nat) (r : Reader) : List (Nat × OutputEvent) :=
  (r.held?.map (i, ·)).toList

/-- The events that readers hold, with their connections. -/
def held (readers : List Reader) : List (Nat × OutputEvent) :=
  readers.zipIdx.flatMap fun (r, i) => r.heldAt i

/-- The event that the listener has in hand. -/
def Phase.inHand : Phase → List OutputEvent
  | .idle => []
  | .waiting event => [event]
  | .sending event _ => [event]
  | .ended _ => []

/-- What a move adds to the history, besides what the managers receive. -/
def Office.intake (before after : Office) : Move → List Record
  | .accept transmission => [.accepted transmission]
  | .read i inTime => [.finished ⟨i, inTime, after.listener.readers[i]?.bind (·.held?)⟩]
  | .enqueue i => (after.listener.queue.drop before.listener.queue.length).map (.queued i)
  | _ => []

/-- What a move adds to the history. -/
def Office.records (before after : Office) (m : Move) : List Record :=
  before.intake after m ++ (before.desk.gained after.desk).map .delivered

namespace Log

variable (h h' : List Record)

/-- The connections that were accepted, in order. -/
def accepted : List Transmission :=
  h.filterMap fun
    | .accepted transmission => some transmission
    | _ => none

/-- How readers have finished, in order. -/
def readings : List Reading :=
  h.filterMap fun
    | .finished reading => some reading
    | _ => none

/-- The events that were read, with their connections. -/
def decoded : List (Nat × OutputEvent) :=
  (readings h).filterMap fun r => r.event.map (r.connection, ·)

/-- The events that have entered the queue, in order, with their connections. -/
def queued : List (Nat × OutputEvent) :=
  h.filterMap fun
    | .queued connection event => some (connection, event)
    | _ => none

/-- The messages that the managers have received, in order. -/
def delivered : List Outgoing :=
  h.filterMap fun
    | .delivered message => some message
    | _ => none

@[simp] theorem accepted_append : accepted (h ++ h') = accepted h ++ accepted h' :=
  List.filterMap_append

@[simp] theorem readings_append : readings (h ++ h') = readings h ++ readings h' :=
  List.filterMap_append

@[simp] theorem decoded_append : decoded (h ++ h') = decoded h ++ decoded h' := by
  rw [decoded, readings_append, List.filterMap_append]
  rfl

@[simp] theorem queued_append : queued (h ++ h') = queued h ++ queued h' :=
  List.filterMap_append

@[simp] theorem delivered_append : delivered (h ++ h') = delivered h ++ delivered h' :=
  List.filterMap_append

variable (messages : List Outgoing)

@[simp] theorem accepted_delivered : accepted (messages.map .delivered) = [] := by
  simp [accepted]

@[simp] theorem readings_delivered : readings (messages.map .delivered) = [] := by
  simp [readings]

@[simp] theorem queued_delivered : queued (messages.map .delivered) = [] := by
  simp [queued]

@[simp] theorem delivered_delivered : delivered (messages.map .delivered) = messages := by
  simp [delivered]

end Log

/-- What may come of a new listener, with its history. Others use the desk, too. -/
inductive Unfolds (t : Terms) (limit : Nat) : List Record → Office → Prop
  | fresh (d : Desk) (free : d.holder ≠ some .listener) : Unfolds t limit [] { desk := d }
  | move {h : List Record} {o : Office} {l : Listener} {d : Desk} (m : Move) :
      Unfolds t limit h o → o.listener.next t limit o.cancelled o.desk m = some (l, d) →
      Unfolds t limit (h ++ o.records { o with listener := l, desk := d } m)
        { o with listener := l, desk := d }
  | others {h : List Record} {o : Office} (d : Desk) : Unfolds t limit h o →
      o.desk.holder ≠ some .listener → d.holder ≠ some .listener →
      Unfolds t limit h { o with desk := d }
  | cancel {h : List Record} {o : Office} : Unfolds t limit h o →
      Unfolds t limit h { o with cancelled := true }

/-- The desk when the initial configuration has been sent. -/
def ready : Desk := { distributor := ⟨.sent, 0, 0⟩, fabric := [.init []] }

/-- An office after moves of the listener and its readers, if they can be made. -/
def Office.replay (t : Terms) (limit : Nat) (o : Office) : List Move → Option Office
  | [] => some o
  | m :: rest =>
    match o.listener.next t limit o.cancelled o.desk m with
    | none => none
    | some (l, d) => Office.replay t limit { o with listener := l, desk := d } rest

/-- The history of moves in order. -/
def Office.chronicle (t : Terms) (limit : Nat) (o : Office) : List Move → List Record
  | [] => []
  | m :: rest =>
    match o.listener.next t limit o.cancelled o.desk m with
    | none => []
    | some (l, d) =>
      o.records { o with listener := l, desk := d } m ++
        Office.chronicle t limit { o with listener := l, desk := d } rest

namespace Unfolds

variable {t : Terms} {limit : Nat} {h : List Record} {o q : Office}

/-- Whatever can be reached has a history. -/
theorem of_reaches (hu : Unfolds t limit h o) (hr : Reaches t limit o q) :
    ∃ later, Unfolds t limit (h ++ later) q := by
  induction hr with
  | refl => exact ⟨[], by rwa [List.append_nil]⟩
  | tail _ hstep ih =>
    obtain ⟨later, hp⟩ := ih
    cases hstep with
    | move m hnext =>
      have hq := hp.move m hnext
      rw [List.append_assoc] at hq
      exact ⟨_, hq⟩
    | others _ d hbefore hafter => exact ⟨later, hp.others d hbefore hafter⟩
    | cancel => exact ⟨later, hp.cancel⟩

/-- Moves in order have the history that their records make. -/
theorem of_replay (hu : Unfolds t limit h o) {moves : List Move}
    (hr : o.replay t limit moves = some q) :
    Unfolds t limit (h ++ o.chronicle t limit moves) q := by
  induction moves generalizing h o with
  | nil =>
    cases hr
    rwa [Office.chronicle, List.append_nil]
  | cons m rest ih =>
    rw [Office.replay] at hr
    split at hr
    · cases hr
    · next hnext =>
      have hq := ih (hu.move m hnext) hr
      rw [List.append_assoc] at hq
      rw [Office.chronicle, hnext]
      exact hq

end Unfolds

end Listener

end ControlPlane
