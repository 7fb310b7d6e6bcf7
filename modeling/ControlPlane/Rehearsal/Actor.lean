import ControlPlane.Rehearsal.Process

/-!
# Scripted workers

A rehearsal runs workers that follow a script, under a clock that jumps from one planned instant to
the next. It shows what supervision does with workers of any behaviour.

## Main definitions

- `Action`: the lines of a script.
- `Actor`: a scripted worker, and how far it has got.
- `Actor.perform`: what an actor does at an instant.
- `Troupe`, `Troupe.turn`: several actors, each having its turn.
-/

namespace ControlPlane.Rehearsal

/-- The lines of a script. -/
inductive Action
  /-- Sends the ready signal. -/
  | ready
  /-- Gives the ready signal up. -/
  | dropReady
  /-- Sleeps for so many milliseconds, whatever happens. -/
  | sleep (ms : Nat)
  /-- Sleeps for so many milliseconds, and returns if it is told to stop. -/
  | sleepOrCancel (ms : Nat)
  /-- Waits until it is told to stop, and goes on. -/
  | untilCancelled
  /-- Waits for the trigger, and returns if it is told to stop. -/
  | untilTriggered
  | exit (status : String)
  | spawnError (reason : String)
  | panic (reason : Option String)
  | finish
  /-- Works with a process, to the end of that. -/
  | process (performance : Performance)
deriving DecidableEq

/-- What is written down about an actor. -/
inductive Note
  | started
  | ready
  | cancelled
  | exited
  | returned
deriving DecidableEq

/-- The name of a note. -/
def Note.name : Note → String
  | .started => "started"
  | .ready => "ready"
  | .cancelled => "cancelled"
  | .exited => "exited"
  | .returned => "returned"

/-- A scripted worker, and how far it has got. -/
structure Actor where
  kind : WorkerKind
  label : String
  /-- The lines that are left. -/
  script : List Action
  /-- When the sleep in the first line ends, if it has begun. -/
  wakes : Option Instant := none
  begun : Bool := false
  ended : Bool := false
  /-- What has been written down, and when. -/
  notes : List (Instant × Note) := []
  /-- What a process with which it has worked has written. -/
  remarks : List Remark := []
  /-- The files that such a process has left behind, if it has changed any. -/
  files : Option FileTree := none
deriving DecidableEq

/-- The worker that an actor plays. -/
def Actor.pending (a : Actor) : PendingWorker := ⟨a.kind, a.label⟩

/-- What an actor sees when it has its turn. -/
structure Cue where
  now : Instant
  cancelled : Bool
  triggered : Bool
deriving DecidableEq

namespace Actor

/-- An actor with one more note. -/
def note (a : Actor) (now : Instant) (n : Note) : Actor :=
  { a with notes := a.notes ++ [(now, n)] }

/-- An actor whose work ends. -/
def conclude (a : Actor) (ending : Ending) : Actor × List Task.Event :=
  ({ a with script := [], wakes := none, ended := true }, [.finish ending])

/-- When a sleep of `ms` milliseconds ends, whether it has begun or begins now. -/
def alarm (a : Actor) (cue : Cue) (ms : Nat) : Instant :=
  a.wakes.getD (cue.now + (Duration.ofMillis ms).slept.nanos)

/-- What an actor with the given lines does until it has to wait, and what can be seen of it. -/
def performLines (cue : Cue) : List Action → Actor → Actor × List Task.Event
  | [], a => (a.note cue.now .returned).conclude .returned
  | line :: rest, a =>
    match line with
    | .ready =>
      let (a, events) := performLines cue rest (a.note cue.now .ready)
      (a, .signal :: events)
    | .dropReady =>
      let (a, events) := performLines cue rest a
      (a, .dropSignal :: events)
    | .sleep ms =>
      if a.alarm cue ms ≤ cue.now then performLines cue rest { a with wakes := none }
      else ({ a with script := line :: rest, wakes := some (a.alarm cue ms) }, [])
    | .sleepOrCancel ms =>
      if cue.cancelled then (a.note cue.now .cancelled).conclude .returned
      else if a.alarm cue ms ≤ cue.now then performLines cue rest { a with wakes := none }
      else ({ a with script := line :: rest, wakes := some (a.alarm cue ms) }, [])
    | .untilCancelled =>
      if cue.cancelled then performLines cue rest (a.note cue.now .cancelled)
      else ({ a with script := line :: rest }, [])
    | .untilTriggered =>
      if cue.triggered then performLines cue rest a
      else if cue.cancelled then a.conclude .returned
      else ({ a with script := line :: rest }, [])
    | .exit status => (a.note cue.now .exited).conclude (.failed (.exited a.kind status))
    | .spawnError reason =>
      a.conclude (.failed (.spawn a.kind a.label (.stream .other reason)))
    | .panic reason => a.conclude (.panicked reason)
    | .finish => (a.note cue.now .returned).conclude .returned
    | .process p =>
      let (p, events) := p.perform cue.now cue.cancelled
      if p.hasEnded then
        ({ a with
            script := [], wakes := none, ended := true
            remarks := p.remarks cue.now, files := p.fate.files },
          events)
      else ({ a with script := .process p :: rest, wakes := p.exitsAt }, events)

/-- What an actor does when it has its turn, until it has to wait. -/
def perform (cue : Cue) (a : Actor) : Actor × List Task.Event :=
  if a.ended then (a, [])
  else
    let a := if a.begun then a else { a.note cue.now .started with begun := true }
    performLines cue a.script a

/-- Whether the sleep of an actor is over. -/
def isDue (now : Instant) (a : Actor) : Bool :=
  match a.wakes with
  | some t => t ≤ now
  | none => false

end Actor

/-- Several actors. -/
structure Troupe where
  actors : List Actor
  /-- Whether the trigger has been pulled. -/
  triggered : Bool := false
  /-- The positions of the actors, the one that has waited longest first. -/
  queue : List Nat
  /-- The positions of the actors that have ended, in that order. -/
  ended : List Nat := []
deriving DecidableEq

namespace Troupe

/-- The actors before their first turn. -/
def ofActors (actors : List Actor) : Troupe :=
  { actors, queue := List.range actors.length }

/-- What happens in the turns of several actors, in order. -/
structure Turn where
  troupe : Troupe
  /-- What can be seen, with the positions of the actors. -/
  events : List (Nat × Task.Event) := []
  /-- Whether any actor did anything. -/
  moved : Bool := false

/-- The turn of the actor at `position`. -/
def Turn.take (now : Instant) (cancelled : Bool) (t : Turn) (position : Nat) : Turn :=
  match t.troupe.actors[position]? with
  | none => t
  | some a =>
    let (b, events) := a.perform ⟨now, cancelled, t.troupe.triggered⟩
    if a = b then t
    else
      { troupe :=
          { t.troupe with
            actors := t.troupe.actors.set position b
            queue := t.troupe.queue.erase position ++ [position]
            ended := if b.ended then t.troupe.ended ++ [position] else t.troupe.ended }
        events := t.events ++ events.map (position, ·)
        moved := true }

/-- Every actor has its turn: first those whose sleep is over, then the others. -/
def turn (now : Instant) (cancelled : Bool) (t : Troupe) : Turn :=
  let isDue (position : Nat) : Bool := (t.actors[position]?).any (·.isDue now)
  (t.queue.filter isDue ++ t.queue.filter fun position => !isDue position).foldl
    (Turn.take now cancelled) { troupe := t }

/-- The instants at which sleeps end. -/
def alarms (t : Troupe) : List Instant := t.actors.filterMap (·.wakes)

/-- The number of lines of all scripts together. -/
def size (t : Troupe) : Nat := t.actors.foldl (fun n a => n + a.script.length + 1) 0

/-- What the processes of the actors have written, by time. -/
def remarks (t : Troupe) : List Remark :=
  (t.actors.flatMap (·.remarks)).mergeSort fun a b => a.time ≤ b.time

/-- Everything that was written down, by time and then by label. -/
def notes (t : Troupe) : List (Instant × String × Note) :=
  (t.actors.flatMap fun a => a.notes.map fun (now, n) => (now, a.label, n)).mergeSort
    fun x y => x.1 < y.1 || (x.1 == y.1 && x.2.1 ≤ y.2.1)

end Troupe

/-- The first of several instants. -/
def earliest : List Instant → Option Instant
  | [] => none
  | t :: rest =>
    match earliest rest with
    | none => some t
    | some u => some (min t u)

end ControlPlane.Rehearsal
