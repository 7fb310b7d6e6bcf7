import ControlPlane.Worker.Basic
import ControlPlane.Outcome

/-!
# Tasks of workers

A worker runs as a task of its own. From outside only two things of it can be seen: what has become
of its ready signal, and how it has ended.

## Main definitions

- `PendingWorker`: a worker that has not been started.
- `Signal`, `Ending`: what has become of the ready signal, and how the worker's own work ends.
- `Task`: what can be seen of a worker.
- `Task.Event`, `Task.step`: what a worker may do.

## Design notes

The ready signal belongs to the task of the worker and ends with it. A worker that hands its signal
to another task, which could send it after the worker has ended, is not modelled.
-/

namespace ControlPlane

/-- A worker that has not been started. -/
structure PendingWorker where
  kind : WorkerKind
  /-- What tells it from other workers. -/
  label : String
deriving DecidableEq

/-- What has become of a ready signal. -/
inductive Signal
  /-- The worker still holds it. -/
  | held
  | sent
  /-- The worker has given it up without sending it. -/
  | dropped
deriving DecidableEq

/-- How the work of a worker ends. -/
inductive Ending
  | returned
  | failed (error : WorkerError)
  /-- It panicked, with a text unless the panic carried something else. -/
  | panicked (reason : Option String)
deriving DecidableEq

/-- What the end of its work means for a worker. Work that returns counts as done only if the worker
had been told to stop. -/
def Ending.outcome (kind : WorkerKind) (cancelled : Bool) : Ending → Except WorkerError Unit
  | .returned =>
    if cancelled then .ok () else .error (.exited kind "stopped without being cancelled")
  | .failed e => .error e
  | .panicked reason => .error (.panicked kind (reason.getD "unknown panic"))

/-- What can be seen of a worker. -/
structure Task where
  kind : WorkerKind
  signal : Signal := .held
  /-- How it has ended; nothing while it runs. -/
  outcome : Option (Except WorkerError Unit) := none
deriving DecidableEq

namespace Task

/-- What a worker may do. -/
inductive Event
  | signal
  | dropSignal
  | finish (ending : Ending)
deriving DecidableEq

/-- A signal is sent or dropped once. -/
def resolve (t : Task) (signal : Signal) : Task :=
  if t.signal = .held then { t with signal } else t

/-- What the worker's task shows after an event; `cancelled` says whether the worker has been told
to stop. The end of a task drops a signal that was not sent, and an ended task does nothing more. -/
def step (cancelled : Bool) (t : Task) : Event → Task
  | .signal => if t.outcome.isSome then t else t.resolve .sent
  | .dropSignal => if t.outcome.isSome then t else t.resolve .dropped
  | .finish ending =>
    if t.outcome.isSome then t
    else { t.resolve .dropped with outcome := some (ending.outcome t.kind cancelled) }

/-- Whether the task has ended. -/
def hasEnded (t : Task) : Bool := t.outcome.isSome

end Task

end ControlPlane
