import ControlPlane.Bootstrap.Supervision
import ControlPlane.Rehearsal.Stage

/-!
# Rehearsing a bootstrap

Scripted workers are brought up together and then supervised, while a shutdown of the program may be
planned for some instant.

## Main definitions

- `Ensemble`: a bootstrap with scripted workers.
- `Ensemble.start`: the bootstrap up to its end.
- `Watch`, `Watch.wait`: the supervision that follows, up to its end.
-/

namespace ControlPlane.Rehearsal

/-- What scripted workers and a planned shutdown do to a state that holds tokens and workers. -/
structure Scene (σ : Type) where
  now : σ → Instant
  setNow : Instant → σ → σ
  tokens : σ → Tokens
  request : σ → σ
  act : σ → Nat → Task.Event → σ

/-- The actors and the shutdown that is still planned, beside a state. -/
structure Cast (σ : Type) where
  state : σ
  troupe : Troupe
  /-- When the shutdown is requested, if one is planned. -/
  shutdownAt : Option Instant

namespace Cast

variable {σ : Type} (scene : Scene σ)

/-- Requests the planned shutdown when its time has come. -/
def shutdown (c : Cast σ) : Bool × Cast σ :=
  match c.shutdownAt with
  | some t =>
    if t ≤ scene.now c.state then
      (true, { c with state := scene.request c.state, shutdownAt := none })
    else (false, c)
  | none => (false, c)

/-- The shutdown and the actors have their turns. -/
def turn (c : Cast σ) : Bool × Cast σ :=
  let (requested, c) := c.shutdown scene
  let t := c.troupe.turn (scene.now c.state) (scene.tokens c.state).cancelled
  (requested || t.moved,
    { c with
      troupe := t.troupe
      state := t.events.foldl (fun s (position, e) => scene.act s position e) c.state })

/-- A wait in which the state itself is looked at, with the instants that it has planned. -/
def stage {ρ : Type} (look : Cast σ → Option ρ × Cast σ) (alarms : σ → List Instant) :
    Stage (Cast σ) ρ where
  look := look
  turn := turn scene
  alarms := fun c => c.shutdownAt.toList ++ alarms c.state ++ c.troupe.alarms
  now := fun c => scene.now c.state
  jump := fun t c => { c with state := scene.setNow t c.state }

end Cast

/-- A bootstrap as a scene. -/
def bootstrapScene : Scene Bootstrap where
  now := (·.now)
  setNow := fun t b => { b with now := t }
  tokens := (·.tokens)
  request := fun b => { b with tokens.program := true }
  act := Bootstrap.act

/-- The steps of the sequence up to where it has to wait. Each one takes it on to the next worker,
so twice the number of workers is enough. -/
def settle : Nat → Bootstrap → Bootstrap
  | 0, b => b
  | n + 1, b => if b.next true = b then b else settle n (b.next true)

/-- The instants for which a bootstrap has planned something. -/
def bootstrapAlarms (b : Bootstrap) : List Instant :=
  match b.phase with
  | .awaiting _ (some (.signal deadline _)) => [deadline]
  | _ => []

/-- What a bootstrap has come to, if it is over. -/
def bootstrapOutcome (b : Bootstrap) : Option (Except BootstrapError Unit) :=
  match b.phase with
  | .ready => some (.ok ())
  | .failed e => some (.error e)
  | _ => none

/-- The bootstrap up to its end; no answer if that never comes. -/
def Cast.start (c : Cast Bootstrap) : Option (Except BootstrapError Unit) × Cast Bootstrap :=
  let look (c : Cast Bootstrap) : Option (Except BootstrapError Unit) × Cast Bootstrap :=
    let b := settle (4 * c.state.members.length + 8) c.state
    (bootstrapOutcome b, { c with state := b })
  (Cast.stage bootstrapScene look bootstrapAlarms).run (c.troupe.size + 4) c

/-- A bootstrap of scripted workers that has just begun. -/
def Cast.ofActors (program : Bool) (limit : Duration) (shutdownAt : Option Instant)
    (actors : List Actor) : Cast Bootstrap where
  state := Bootstrap.start 0 program limit (actors.map (·.pending))
  troupe := .ofActors (Bootstrap.startOrder (·.kind) actors)
  shutdownAt := shutdownAt

/-- A supervision under a clock. -/
structure Watch where
  now : Instant
  supervision : Supervision
  /-- How many ends of tasks have been told to whoever waits. -/
  told : Nat

/-- A supervision as a scene. -/
def watchScene : Scene Watch where
  now := (·.now)
  setNow := fun t w => { w with now := t }
  tokens := (·.supervision.tokens)
  request := fun w => { w with supervision.tokens.program := true }
  act := fun w position e => { w with supervision := w.supervision.act position e }

/-- The supervision of the workers of a bootstrap that is over. -/
def Cast.watch (c : Cast Bootstrap) : Cast Watch where
  state := ⟨c.state.now, .ofMembers c.state.tokens c.state.members, 0⟩
  troupe := { c.troupe with ended := [] }
  shutdownAt := c.shutdownAt

/-- The supervision up to its end; no answer if that never comes. At first the workers are looked at
in their order, later in the order in which they end. -/
def Cast.wait (c : Cast Watch) : Option (Except WorkerError Unit) × Cast Watch :=
  let look (c : Cast Watch) : Option (Except WorkerError Unit) × Cast Watch :=
    let w := c.state
    let first := if w.told = 0 then List.range w.supervision.members.length else []
    let positions := first ++ c.troupe.ended.drop (w.told - 1)
    let s := positions.foldl Supervision.observe w.supervision
    (s.outcome?, { c with state := { w with supervision := s, told := c.troupe.ended.length + 1 } })
  (Cast.stage watchScene look fun _ => []).run (c.troupe.size + 4) c

end ControlPlane.Rehearsal
