import ControlPlane.Bootstrap.Basic
import ControlPlane.Worker.Handle

/-!
# The bootstrap sequence

All workers are started, in the order of their kinds. Then each is waited for in turn until it is
ready, with one deadline for all of them. If one fails, the time is over, or a shutdown is
requested, all of them are told to stop and their ends are waited for.

## Main definitions

- `Member`: a started worker, its task and its handle.
- `Tokens`: who has been told to stop.
- `Bootstrap`: a bootstrap under way.
- `Bootstrap.startOrder`, `Bootstrap.start`: how workers are started.
- `Bootstrap.launch?`: the same under a clock that cannot tell every deadline.
- `Bootstrap.Step`: what the sequence and its surroundings may do.
- `Bootstrap.next`: the next step of the sequence itself.

## Design notes

A worker may do something between any two steps of the sequence, and so may whoever requests a
shutdown. While the sequence waits for a worker it also watches for the request; where both are
there at once, either may be seen first.

All workers are started in one go, since nothing is waited for in between.
-/

namespace ControlPlane

/-- A started worker, its task and its handle. -/
structure Member where
  worker : PendingWorker
  task : Task
  handle : Handle := {}
deriving DecidableEq

/-- A worker is started on a task of its own. -/
def Member.spawn (w : PendingWorker) : Member := { worker := w, task := { kind := w.kind } }

/-- Who has been told to stop. -/
structure Tokens where
  /-- The whole program. -/
  program : Bool := false
  /-- The workers alone. -/
  set : Bool := false
deriving DecidableEq

/-- Whether the workers have been told to stop. -/
def Tokens.cancelled (t : Tokens) : Bool := t.program || t.set

/-- Where a bootstrap stands. -/
inductive Bootstrap.Phase
  /-- It waits for the worker at a position to be ready, or is about to. -/
  | awaiting (position : Nat) (wait : Option ReadyWait)
  /-- It has failed and waits for the end of the worker at a position. -/
  | draining (position : Nat) (error : BootstrapError)
  | failed (error : BootstrapError)
  | ready
deriving DecidableEq

/-- A bootstrap under way. -/
structure Bootstrap where
  now : Instant
  tokens : Tokens
  /-- The time for all workers together. -/
  limit : Duration
  deadline : Instant
  members : List Member
  phase : Bootstrap.Phase
deriving DecidableEq

namespace Bootstrap

/-- One more worker among those that are in order, in front of the others of its rank. -/
def insertByRank {α : Type} (kind : α → WorkerKind) (w : α) : List α → List α
  | [] => [w]
  | v :: rest =>
    if (kind w).rank ≤ (kind v).rank then w :: v :: rest else v :: insertByRank kind w rest

/-- Workers in the order in which they are started: sorted by the ranks of their kinds. Workers of
one kind keep their order. -/
def startOrder {α : Type} (kind : α → WorkerKind) (workers : List α) : List α :=
  workers.foldr (insertByRank kind) []

/-- A bootstrap that has just started the given workers. -/
def start (now : Instant) (program : Bool) (limit : Duration) (workers : List PendingWorker) :
    Bootstrap where
  now := now
  tokens := { program }
  limit := limit
  deadline := now + limit.nanos
  members := (startOrder (·.kind) workers).map .spawn
  phase := .awaiting 0 none

/-- A bootstrap that has just started the given workers; nothing if the clock cannot tell its
deadline. Whoever asked for that panics before any worker is started. -/
def launch? (now : Instant) (program : Bool) (limit : Duration) (workers : List PendingWorker) :
    Option Bootstrap :=
  if now + limit.nanos ≤ Instant.last then some (start now program limit workers) else none

/-- The bootstrap fails: all workers are told to stop. -/
def fail (b : Bootstrap) (e : BootstrapError) : Bootstrap :=
  { b with tokens.set := true, phase := .draining 0 e }

/-- The bootstrap after a wait for the worker at `position` has an answer. -/
def answered (b : Bootstrap) (position : Nat) (kind : WorkerKind) :
    Except WorkerError Unit → Bootstrap
  | .ok () => { b with phase := .awaiting (position + 1) none }
  | .error e => b.fail (.ofWorker kind b.limit e)

/-- The bootstrap after one look at the worker at `position`. -/
def looked (b : Bootstrap) (position : Nat) (m : Member)
    (look : Look ReadyWait (Except WorkerError Unit) × Handle) : Bootstrap :=
  let b := { b with members := b.members.set position { m with handle := look.2 } }
  match look.1 with
  | .waiting wait => { b with phase := .awaiting position (some wait) }
  | .done answer => b.answered position m.task.kind answer

/-- The next step of the sequence. `requestFirst` says whether it looks for a requested shutdown
before it looks at the worker. -/
def next (requestFirst : Bool) (b : Bootstrap) : Bootstrap :=
  match b.phase with
  | .awaiting position wait =>
    match b.members[position]? with
    | none => { b with phase := .ready }
    | some m =>
      if b.tokens.program && requestFirst then b.fail .cancelled
      else
        let look := match wait with
          | none => m.handle.beginWait m.task b.now (.ofNanos (b.deadline - b.now))
          | some wait => m.handle.lookReady m.task b.now wait
        let c := b.looked position m look
        match look.1 with
        | .waiting _ => if b.tokens.program then c.fail .cancelled else c
        | .done _ => c
  | .draining position e =>
    match b.members[position]? with
    | none => { b with phase := .failed e }
    | some m =>
      if (m.handle.lookEnd m.task).isSome then { b with phase := .draining (position + 1) e } else b
  | .failed _ => b
  | .ready => b

/-- The worker at `position` does something. -/
def act (b : Bootstrap) (position : Nat) (e : Task.Event) : Bootstrap :=
  match b.members[position]? with
  | none => b
  | some m =>
    { b with
      members := b.members.set position { m with task := m.task.step b.tokens.cancelled e } }

/-- What the sequence and its surroundings may do. -/
inductive Step : Bootstrap → Bootstrap → Prop
  | next (requestFirst : Bool) (b : Bootstrap) : Step b (b.next requestFirst)
  | act (position : Nat) (e : Task.Event) (b : Bootstrap) : Step b (b.act position e)
  /-- A shutdown of the program is requested. -/
  | request (b : Bootstrap) : Step b { b with tokens.program := true }
  /-- Time passes. -/
  | wait (d : Nat) (b : Bootstrap) : Step b { b with now := b.now + d }

/-- What may come of a bootstrap. -/
inductive Reaches (b : Bootstrap) : Bootstrap → Prop
  | refl : Reaches b b
  | tail {c d : Bootstrap} : Reaches b c → Step c d → Reaches b d

end Bootstrap

end ControlPlane
