import ControlPlane.Worker.Task

/-!
# Handles of workers

Whoever started a worker holds a handle to it and can wait for its ready signal and for its end.

Waiting is done in steps: each looks at the task once and either answers or goes on waiting. What a
handle has given to a wait it does not get back, even if the wait is broken off.

## Main definitions

- `Instant`, `Instant.last`: points in time, as far as the clock can tell them.
- `Handle`: what its owner still has of a worker.
- `ReadyWait`: a wait for the ready signal that has begun.
- `Handle.beginWait`, `Handle.lookReady`: the first look of such a wait, and every further one.
- `Handle.lookEnd`: one look at whether the worker has ended.
-/

namespace ControlPlane

/-- A point in time, in nanoseconds. -/
abbrev Instant := Nat

/-- The last point in time that the clock can tell: its seconds have sixty-three bits. -/
def Instant.last : Instant := UInt64.size / 2 * 1000000000 - 1

/-- What the owner of a worker's handle still has of the worker. -/
structure Handle where
  /-- Whether nobody has waited for the ready signal yet. -/
  listening : Bool := true
  /-- Whether nobody has waited for the end of the task yet. -/
  attached : Bool := true
  /-- How the task has ended, if a wait for the signal has seen that. -/
  remembered : Option (Except WorkerError Unit) := none
deriving DecidableEq

/-- A wait for the ready signal that has begun. -/
inductive ReadyWait
  /-- It waits for the signal, up to an instant. -/
  | signal (deadline : Instant) (limit : Duration)
  /-- The signal was dropped; it waits for the end of the task. -/
  | ending
deriving DecidableEq

/-- What one look gives: the wait goes on, or it has an answer. -/
inductive Look (ω α : Type)
  | waiting (wait : ω)
  | done (answer : α)
deriving DecidableEq

namespace Handle

/-- What a wait answers when the task has ended in spite of it, and the handle after that. The
answer is the task's own error; later a plain exit is remembered. -/
def endedBeforeReady (h : Handle) (kind : WorkerKind) :
    Except WorkerError Unit → Except WorkerError Unit × Handle
  | .ok () =>
    (.error (.exited kind "stopped before signalling readiness"),
      { h with remembered := some (.ok ()) })
  | .error e => (.error e, { h with remembered := some (.error (.exited kind e.message)) })

/-- A look at whether a task has ended whose signal was dropped. -/
def lookEnding (h : Handle) (t : Task) : Look ReadyWait (Except WorkerError Unit) × Handle :=
  match t.outcome with
  | none => (.waiting .ending, h)
  | some outcome =>
    let (answer, h) := h.endedBeforeReady t.kind outcome
    (.done answer, h)

/-- One look of a wait for the ready signal. A signal that has been sent counts even if the time is
over. -/
def lookReady (h : Handle) (t : Task) (now : Instant) :
    ReadyWait → Look ReadyWait (Except WorkerError Unit) × Handle
  | .signal deadline limit =>
    match t.signal with
    | .sent => (.done (.ok ()), h)
    | .dropped =>
      if h.attached then { h with attached := false }.lookEnding t
      else (.done (h.endedBeforeReady t.kind (.ok ())).1, h)
    | .held =>
      if deadline ≤ now then (.done (.error (.readinessTimeout t.kind limit)), h)
      else (.waiting (.signal deadline limit), h)
  | .ending => h.lookEnding t

/-- The first look of a wait for the ready signal, for at most `limit`. Only the first wait on a
handle waits; every further one is answered at once. -/
def beginWait (h : Handle) (t : Task) (now : Instant) (limit : Duration) :
    Look ReadyWait (Except WorkerError Unit) × Handle :=
  if h.listening then
    { h with listening := false }.lookReady t now (.signal (now + limit.nanos) limit)
  else (.done (.ok ()), h)

/-- One look of a wait for the end of the task. A handle that has lost its task has nothing to wait
for. -/
def lookEnd (h : Handle) (t : Task) : Option (Except WorkerError Unit) :=
  match h.remembered with
  | some outcome => some outcome
  | none => if h.attached then t.outcome else some (.ok ())

end Handle

end ControlPlane
