import ControlPlane.Rehearsal.Stage

/-!
# Rehearsing one worker

One scripted worker and the owner of its handle, who waits for the ready signal, lets time pass,
tells the worker to stop, pulls the trigger, or waits for its end.

## Main definitions

- `Solo`: the worker and its handle.
- `Solo.waitReady`, `Solo.pass`, `Solo.cancel`, `Solo.pull`, `Solo.join`: what the owner does.
-/

namespace ControlPlane.Rehearsal

/-- One scripted worker and its handle. -/
structure Solo where
  now : Instant := 0
  cancelled : Bool := false
  task : Task
  handle : Handle := {}
  troupe : Troupe

namespace Solo

/-- A worker that has just been started. -/
def ofActor (a : Actor) : Solo := { task := { kind := a.kind }, troupe := .ofActors [a] }

/-- The worker has its turn. -/
def turn (s : Solo) : Bool × Solo :=
  let t := s.troupe.turn s.now s.cancelled
  (t.moved,
    { s with
      troupe := t.troupe
      task := (t.events.map (·.2)).foldl (·.step s.cancelled) s.task })

/-- What a wait with the states `ω` consists of. -/
def stage {ω ρ : Type} (look : ω × Solo → Option ρ × ω × Solo) (alarms : ω → List Instant) :
    Stage (ω × Solo) ρ where
  look := look
  turn := fun (w, s) => let (moved, s) := s.turn; (moved, w, s)
  alarms := fun (w, s) => alarms w ++ s.troupe.alarms
  now := fun (_, s) => s.now
  jump := fun t (w, s) => (w, { s with now := t })

/-- The instants for which a wait for the ready signal has planned something. -/
def waitAlarms : Option ReadyWait → List Instant
  | some (.signal deadline _) => [deadline]
  | _ => []

/-- Waits for the ready signal, for at most `limit`; no answer if that never ends. -/
def waitReady (limit : Duration) (s : Solo) : Option (Except WorkerError Unit) × Solo :=
  let look : Option ReadyWait × Solo → Option (Except WorkerError Unit) × Option ReadyWait × Solo :=
    fun (w, s) =>
      let (look, handle) := match w with
        | none => s.handle.beginWait s.task s.now limit
        | some w => s.handle.lookReady s.task s.now w
      match look with
      | .waiting w => (none, some w, { s with handle })
      | .done answer => (some answer, none, { s with handle })
  let (answer, _, s) := (stage look waitAlarms).run (s.troupe.size + 2) (none, s)
  (answer, s)

/-- Sleeps for a time, however long that is. -/
def pass (d : Duration) (s : Solo) : Solo :=
  let stop := s.now + d.slept.nanos
  let look : Unit × Solo → Option Unit × Unit × Solo :=
    fun (_, s) => (if stop ≤ s.now then some () else none, (), s)
  ((stage look fun _ => [stop]).runUntil stop (s.troupe.size + 2) ((), s)).2.2

/-- Tells the worker to stop. -/
def cancel (s : Solo) : Solo := { s with cancelled := true }

/-- Pulls the trigger. -/
def pull (s : Solo) : Solo := { s with troupe.triggered := true }

/-- Waits for the end of the worker; no answer if that never comes. -/
def join (s : Solo) : Option (Except WorkerError Unit) × Solo :=
  let look : Unit × Solo → Option (Except WorkerError Unit) × Unit × Solo :=
    fun (_, s) => (s.handle.lookEnd s.task, (), s)
  let (answer, _, s) := (stage look fun _ => []).run (s.troupe.size + 2) ((), s)
  (answer, s)

end Solo

end ControlPlane.Rehearsal
