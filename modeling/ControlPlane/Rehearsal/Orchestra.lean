import ControlPlane.Orchestration.Step
import ControlPlane.Rehearsal.Ensemble
import ControlPlane.Rehearsal.Listening

/-!
# Rehearsing a control plane

A whole control plane is rehearsed with scripted workers. Everybody does what they can as soon as
they can: the runner, the workers in their turns, and the output listener. When nobody can go on,
the clock jumps to the next planned instant.

## Main definitions

- `Score`: what a rehearsal is given.
- `Orchestra`: a control plane with its workers.
- `Orchestra.begin`, `Orchestra.settled`, `Orchestra.finished`: a run begins, has sent its initial
  configuration or is over, and is over.
- `Orchestra.refine`, `Orchestra.connect`: a refinement is asked for, and a producer connects.
-/

namespace ControlPlane.Rehearsal

/-- What a rehearsal is given: the parts of a control plane, and whether the address of the output
listener can be bound. -/
structure Score (σ : Type) where
  collaborators : Collaborators := .reference
  plan : Plan
  links : Links σ
  socket : Except SystemError Unit

/-- A control plane with its workers, over the state of everything behind its channels. -/
structure Orchestra (σ : Type) where
  plane : Orchestration := {}
  beyond : σ
  troupe : Troupe := .ofActors []
  /-- When the runner's pause between two attempts is over. -/
  runnerRests : Instant := 0
  /-- When the listener's pause between two attempts is over. -/
  listenerRests : Instant := 0
  /-- How many ends of workers have been told to the runner. -/
  told : Nat := 0

namespace Orchestra

variable {σ : Type} (score : Score σ)

/-- A move is made, if it can be made and changes anything. -/
def move (m : Orchestration.Move) (o : Orchestra σ) : Option (Orchestra σ) :=
  match o.plane.next score.collaborators score.plan m with
  | none => none
  | some plane => if plane = o.plane then none else some { o with plane }

/-- Several moves are made, as far as they can be made. -/
def moves (ms : List Orchestration.Move) (o : Orchestra σ) : Orchestra σ :=
  ms.foldl (fun o m => (o.move score m).getD o) o

/-- The first message of a parcel is handed to its channel. -/
def attempt (parcel : Parcel) (o : Orchestra σ) : Except ChannelError Unit × Orchestra σ :=
  let (outcome, beyond) :=
    (score.links.channel parcel.message).attempt parcel.message.frame o.beyond
  (outcome, { o with beyond })

/-- When a pause ends that begins after an attempt with the given outcome. -/
def restsUntil (o : Orchestra σ) (parcel : Parcel) : Except ChannelError Unit → Instant
  | .ok () => o.plane.now
  | .error _ => o.plane.now + (score.plan.retry.backoff (parcel.failures + 1)).nanos

/-- The run, while it is not over. -/
def run? (o : Orchestra σ) : Option Run := o.plane.run.filter fun r => r.outcome?.isNone

/-- The runner takes its next step, if it can. -/
def runner (o : Orchestra σ) : Option (Orchestra σ) :=
  match o.run? with
  | none => none
  | some r =>
    match r.phase with
    | .binding => o.move score (.bind score.socket)
    | .pushing parcel _ =>
      if o.plane.now < o.runnerRests then none
      else
        let (outcome, o) := o.attempt score parcel
        { o with runnerRests := o.restsUntil score parcel outcome }.move score (.deliver outcome)
    | _ => o.move score (.advance true)

/-- The listener or one of its readers takes its next step, if it can. -/
def listener (o : Orchestra σ) : Option (Orchestra σ) :=
  match o.run? with
  | none => none
  | some r =>
    match o.move score .announce with
    | some o => some o
    | none =>
      let cancelled := r.tokens?.any (·.cancelled)
      match r.listener.intention? cancelled o.plane.desk.holder.isNone with
      | none => none
      | some (.move m) => o.move score (.listen m)
      | some (.attempt parcel) =>
        if o.plane.now < o.listenerRests then none
        else
          let (outcome, o) := o.attempt score parcel
          { o with listenerRests := o.restsUntil score parcel outcome }.move score
            (.listen (.attempt outcome))

/-- Steps of one kind are taken for as long as they can be, at most `fuel` of them. -/
def exhaust (step : Orchestra σ → Option (Orchestra σ)) :
    (fuel : Nat) → Orchestra σ → Bool × Orchestra σ
  | 0, o => (false, o)
  | fuel + 1, o =>
    match step o with
    | none => (false, o)
    | some o => (true, (exhaust step fuel o).2)

/-- The workers have their turns, if they have been started. -/
def workers (o : Orchestra σ) : Bool × Orchestra σ :=
  match o.run?.bind (·.tokens?) with
  | none => (false, o)
  | some tokens =>
    let t := o.troupe.turn o.plane.now tokens.cancelled
    (t.moved,
      { o with troupe := t.troupe }.moves score
        (t.events.map fun (position, e) => .work position e))

/-- The ends of workers are told to the runner: at first in the order of the workers, later in the
order in which they end. -/
def tell (o : Orchestra σ) : Bool × Orchestra σ :=
  match o.run? with
  | none => (false, o)
  | some r =>
    let count := r.members.length
    let first := if o.told = 0 then List.range count else []
    let positions := first ++ o.troupe.ended.drop (o.told - 1) ++ [count - 1]
    let after := o.moves score (positions.map .observe)
    if after.plane = o.plane then (false, o)
    else (true, { after with told := o.troupe.ended.length + 1 })

/-- How many steps of one kind may be taken in a row: as many as all attempts for two messages, and
some for every worker. -/
def stamina (o : Orchestra σ) : Nat :=
  2 * score.plan.retry.allowed + 8 * o.troupe.actors.length + 64

/-- Everybody has their turns. -/
def turn (o : Orchestra σ) : Bool × Orchestra σ :=
  let (a, o) := o.exhaust (runner score) (o.stamina score)
  let (b, o) := o.workers score
  let (c, o) := o.exhaust (listener score) (o.stamina score)
  let (d, o) := o.tell score
  (a || b || c || d, o)

/-- The instants for which something is planned. -/
def alarms (o : Orchestra σ) : List Instant :=
  let run := match o.run?.map (·.phase) with
    | some (.starting b) => bootstrapAlarms b
    | _ => []
  run ++ [o.runnerRests, o.listenerRests] ++ o.troupe.alarms

/-- The clock jumps to an instant. -/
def jump (t : Instant) (o : Orchestra σ) : Orchestra σ :=
  { o with plane.now := t }

/-- A wait until something holds. -/
def stage (holds : Orchestra σ → Bool) : Stage (Orchestra σ) Unit where
  look o := (if holds o then some () else none, o)
  turn := turn score
  alarms := alarms
  now o := o.plane.now
  jump := jump

/-- The control plane goes on until something holds; `false` if that never comes. -/
def await (holds : Orchestra σ → Bool) (o : Orchestra σ) : Bool × Orchestra σ :=
  let (answer, o) := (stage score holds).run (o.troupe.size + o.stamina score) o
  (answer.isSome, o)

/-- At most `fuel` rounds at the present instant. -/
def rounds : (fuel : Nat) → Orchestra σ → Orchestra σ
  | 0, o => o
  | fuel + 1, o =>
    match o.turn score with
    | (true, o) => rounds fuel o
    | (false, o) => o

/-- Everybody goes on at the present instant for as long as they can. -/
def rest (o : Orchestra σ) : Orchestra σ := o.rounds score (4 * o.troupe.size + 16)

/-- A run begins with the given workers, unless one is under way. -/
def begin (queries : List LogicalQuery) (actors : List Actor) (o : Orchestra σ) : Orchestra σ :=
  match o.plane.begin queries (actors.map (·.pending)) with
  | none => o
  | some plane =>
    { o with
      plane
      troupe := { Troupe.ofActors (Bootstrap.startOrder (·.kind) actors) with
        triggered := o.troupe.triggered }
      told := 0 }

/-- Whether no run is under way. -/
def finished (o : Orchestra σ) : Bool := o.run?.isNone

/-- Whether the initial configuration is sent, or no run is under way. -/
def settled (o : Orchestra σ) : Bool :=
  match o.run? with
  | none => true
  | some r =>
    match r.phase with
    | .supervising _ => true
    | _ => false

/-- Whether a run has been begun and is not over. -/
def isRunning (o : Orchestra σ) : Bool := o.run?.isSome

/-- A shutdown of the program is requested. -/
def request (o : Orchestra σ) : Orchestra σ :=
  { o with plane := { o.plane with shutdown := true, run := o.plane.run.map Run.request } }

/-- The trigger of the workers is pulled. -/
def pull (o : Orchestra σ) : Orchestra σ := { o with troupe.triggered := true }

/-- A caller takes its next step, if it can. -/
def caller (i : Nat) (o : Orchestra σ) : Option (Orchestra σ) :=
  match o.plane.callers[i]? with
  | none => none
  | some x =>
    match x.phase with
    | .pushing _ parcel =>
      let (outcome, o) := o.attempt score parcel
      o.move score (.send i outcome)
    | _ => o.move score (.proceed i)

/-- A refinement is asked for; no answer if the pipeline or the distributor is never free. -/
def refine (queries : List LogicalQuery) (o : Orchestra σ) :
    Option (Except OrchestrationError Pass) × Orchestra σ :=
  let i := o.plane.callers.length
  let o := o.moves score [.call queries]
  let (_, o) := o.exhaust (caller score i) (o.stamina score)
  ((o.plane.callers[i]?).bind Caller.answer?, o)

/-- A producer connects; `false` if nobody accepts the connection. The event is dealt with before
anything else happens. -/
def connect (t : Transmission) (o : Orchestra σ) : Bool × Orchestra σ :=
  match o.move score (.listen (.accept t)) with
  | none => (false, o)
  | some o => (true, o.rest score)

end Orchestra

end ControlPlane.Rehearsal
