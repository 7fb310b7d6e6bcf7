import ControlPlane.Worker.Settings
import ControlPlane.Worker.Task

/-!
# Workers with a process

A manager or the emitter, launched as a process of its own or run by somebody else. Where it listens
on an endpoint, it counts as ready when that endpoint accepts a connection. It works until its
process exits or it is told to stop; in the latter case it asks the system to kill its process.

## Main definitions

- `ProcessWorker`: such a worker.
- `ProcessWorker.Course`: how far it has got.
- `ProcessWorker.launch`, `ProcessWorker.poll`: what it does when it begins and when it looks
  around.
- `ProcessWorker.live`: what comes of it when it looks around time and again.

## Design notes

Before it is ready, a worker that is told to stop looks at nothing else, and one whose process has
exited does not become ready. After that, a request to stop and the exit of the process may be seen
in either order if both are there.

A worker that is told to stop returns whatever the system answers when it is asked to kill the
process. The system may refuse, as it does where the process has taken on the rights of somebody
else.
-/

namespace ControlPlane

/-- A manager or the emitter. -/
structure ProcessWorker where
  kind : WorkerKind
  settings : WorkerSettings
  /-- The time between two looks at the endpoint; without one it is not looked at. -/
  probing : Option Duration := none
deriving DecidableEq

namespace ProcessWorker

/-- The endpoint that is looked at until it accepts a connection, and the time between two looks. -/
def watched (w : ProcessWorker) : Option (String × Duration) :=
  match w.settings.endpoint, w.probing with
  | some endpoint, some interval => some (endpoint, interval)
  | _, _ => none

/-- What has become of a process. -/
inductive Child
  | running
  /-- It has exited by itself. -/
  | exited
  /-- Nobody can wait for it any more. -/
  | lost
  /-- The system was asked to kill it, and it has come to its end. -/
  | killed
  /-- The system was asked to kill it and answered with an error, so that it may live on. -/
  | spared
deriving DecidableEq

/-- How far a worker has got. -/
inductive Phase
  /-- Its process has not been launched. -/
  | fresh
  /-- It is not ready. -/
  | starting
  | ready
  | ended
deriving DecidableEq

/-- How far a worker has got, and what has become of its process, if one was launched. -/
structure Course where
  phase : Phase := .fresh
  child : Option Child := none
deriving DecidableEq

/-- What a worker sees when it looks around. -/
structure Sight where
  /-- Whether it has been told to stop. -/
  cancelled : Bool
  /-- What waiting for its process has given, if anything: the status with which it has exited, or
  why it cannot be waited for. -/
  exit : Option (Except SystemError String)
  /-- Whether its endpoint has accepted a connection. -/
  connected : Bool
  /-- What the system answers if it is asked to kill the process. -/
  kill : Except SystemError Unit := .ok ()
deriving DecidableEq

variable (w : ProcessWorker)

/-- The work ends. -/
def conclude (c : Course) (ending : Ending) : Course × List Task.Event :=
  ({ c with phase := .ended }, [.finish ending])

/-- The process is launched, if there is a command for that; `outcome` says whether it could be. -/
def launch (outcome : Except SystemError Unit) (c : Course) : Course × List Task.Event :=
  match c.phase, w.settings.command with
  | .fresh, none => ({ c with phase := .starting }, [])
  | .fresh, some command =>
    match outcome with
    | .ok () => (⟨.starting, some .running⟩, [])
    | .error e => conclude c (.failed (.spawn w.kind command e))
  | _, _ => (c, [])

/-- What becomes of a process that the system is asked to kill. -/
def Child.ofKill : Except SystemError Unit → Child
  | .ok () => .killed
  | .error _ => .spared

/-- The worker was told to stop: it asks the system to kill its process, and returns. -/
def stop (s : Sight) (c : Course) : Course × List Task.Event :=
  conclude { c with child := c.child.map fun _ => .ofKill s.kill } .returned

/-- What waiting for the process has given, if there is one that runs. -/
def Sight.exit? (s : Sight) (c : Course) : Option (Except SystemError String) :=
  if c.child = some .running then s.exit else none

/-- How the exit of a process is described. -/
def exitText : Except SystemError String → String
  | .ok status => status
  | .error e => "wait failed: " ++ e.message

/-- What becomes of a process that was waited for. -/
def Child.ofExit : Except SystemError String → Child
  | .ok _ => .exited
  | .error _ => .lost

/-- Waiting for the process has come to an end by itself. -/
def exited (c : Course) (exit : Except SystemError String) : Course × List Task.Event :=
  conclude { c with child := some (.ofExit exit) } (.failed (.exited w.kind (exitText exit)))

/-- What a worker does when it looks around. Once it is ready, `exitFirst` says whether it looks at
its process before it looks for a request to stop. -/
def poll (exitFirst : Bool) (s : Sight) (c : Course) : Course × List Task.Event :=
  match c.phase with
  | .starting =>
    if s.cancelled then stop s c
    else
      match s.exit? c with
      | some exit => w.exited c exit
      | none =>
        if w.watched.isNone || s.connected then ({ c with phase := .ready }, [.signal])
        else (c, [])
  | .ready =>
    match s.exit? c with
    | some exit => if s.cancelled && !exitFirst then stop s c else w.exited c exit
    | none => if s.cancelled then stop s c else (c, [])
  | .fresh => (c, [])
  | .ended => (c, [])

/-- One look around: what is seen, and in which order once the worker is ready. -/
structure Glance where
  exitFirst : Bool
  sight : Sight
deriving DecidableEq

/-- What has come of a worker: its course, what it has shown, and what can be seen of its task. -/
structure Life where
  course : Course
  events : List Task.Event
  task : Task
deriving DecidableEq

/-- A life that goes on; `cancelled` says whether the worker has been told to stop. -/
def Life.next (l : Life) (cancelled : Bool) (r : Course × List Task.Event) : Life where
  course := r.1
  events := l.events ++ r.2
  task := r.2.foldl (·.step cancelled) l.task

/-- The worker begins. Whether it has been told to stop makes no difference to a failed launch. -/
def born (launched : Except SystemError Unit) : Life :=
  Life.next ⟨{}, [], { kind := w.kind }⟩ false (w.launch launched {})

/-- The worker looks around. -/
def look (l : Life) (g : Glance) : Life :=
  l.next g.sight.cancelled (w.poll g.exitFirst g.sight l.course)

/-- What comes of a worker when its launch has gone so and it looks around so often. -/
def live (launched : Except SystemError Unit) (glances : List Glance) : Life :=
  glances.foldl w.look (w.born launched)

end ProcessWorker

end ControlPlane
