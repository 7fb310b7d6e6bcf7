import ControlPlane.FileTree
import ControlPlane.Outcome
import ControlPlane.Worker.Handle
import ControlPlane.Worker.Process

/-!
# Planned processes

In a rehearsal it is planned what becomes of a worker's process and of its endpoint.

## Main definitions

- `Remark`: what a process writes.
- `Fate`: the plan for one worker.
- `Performance`: a worker with its plan, and how far it has got.
- `Performance.perform`: what the worker does at an instant.
-/

namespace ControlPlane.Rehearsal

/-- What a process writes. -/
structure Remark where
  /-- When it writes, in nanoseconds from its start on. -/
  time : Nat
  /-- Whether it writes where errors go. -/
  isError : Bool
  text : String
deriving DecidableEq

/-- What becomes of a worker's process and of its endpoint. -/
structure Fate where
  /-- Whether the process can be launched. -/
  launch : Except SystemError Unit := .ok ()
  /-- How long the process runs, in nanoseconds, and its status then; without that it runs until it
  is killed. -/
  exit : Option (Nat × String) := none
  remarks : List Remark := []
  /-- The files that the process leaves behind, if it has changed any. -/
  files : Option FileTree := none
  /-- Whether the endpoint accepts connections. -/
  accepts : Bool := false
deriving DecidableEq

/-- A worker with its plan, and how far it has got. -/
structure Performance where
  worker : ProcessWorker
  fate : Fate
  course : ProcessWorker.Course := {}
  /-- When the worker began. -/
  began : Option Instant := none
deriving DecidableEq

namespace Performance

/-- When the process exits by itself. -/
def exitsAt (p : Performance) : Option Instant :=
  match p.began, p.fate.exit with
  | some began, some (after, _) => some (began + after)
  | _, _ => none

/-- What the process has written up to an instant, with the instants at which it has written. -/
def remarks (p : Performance) (now : Instant) : List Remark :=
  (p.fate.remarks.map fun r => { r with time := p.began.getD 0 + r.time }).filter (·.time ≤ now)

/-- What the worker sees at an instant. -/
def sight (p : Performance) (now : Instant) (cancelled : Bool) : ProcessWorker.Sight where
  cancelled := cancelled
  exit := if p.exitsAt.any (· ≤ now) then p.fate.exit.map (.ok ·.2) else none
  connected := p.fate.accepts

/-- What the worker does at an instant, and what can be seen of it. It looks around once more after
it has become ready. -/
def perform (p : Performance) (now : Instant) (cancelled : Bool) : Performance × List Task.Event :=
  let p := { p with began := some (p.began.getD now) }
  let (c, launched) := p.worker.launch p.fate.launch p.course
  let (c, first) := p.worker.poll false (p.sight now cancelled) c
  let (c, second) := p.worker.poll false (p.sight now cancelled) c
  ({ p with course := c }, launched ++ first ++ second)

/-- Whether the work has ended. -/
def hasEnded (p : Performance) : Bool := p.course.phase == .ended

end Performance

end ControlPlane.Rehearsal
