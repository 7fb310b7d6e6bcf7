import ControlPlane.Orchestration.Run

/-!
# The moves of a control plane

At any time the runner, the output listener, a worker, a caller or the surroundings may make the
next move. What comes of every order of moves is what may come of a control plane.

## Main definitions

- `Orchestration.Move`: the moves.
- `Orchestration.next`: what comes of a move, if it can be made.
- `Orchestration.begin`: a run begins.
- `Orchestration.Reaches`: what may come of a control plane without another run.

## Design notes

Where the clock cannot tell the deadline for the workers (`Bootstrap.launch?`), the runner panics
before it starts any of them, and gives up what it holds. Such a run is left out here: the time for
the workers is taken to be one that the clock can tell.
-/

namespace ControlPlane.Orchestration

/-- What may happen in a control plane. -/
inductive Move
  /-- The runner takes its next step by itself. If it waits for a worker, `requestFirst` says
  whether it looks for a requested shutdown before it looks at the worker. -/
  | advance (requestFirst : Bool)
  /-- The address of the output listener is bound, or cannot be. -/
  | bind (outcome : Except SystemError Unit)
  /-- An attempt of the runner to deliver a message has its outcome. -/
  | deliver (outcome : Except ChannelError Unit)
  /-- The runner sees that the worker at a position has ended. -/
  | observe (position : Nat)
  /-- The worker at a position does something. -/
  | work (position : Nat) (event : Task.Event)
  /-- The output listener says that it is ready. -/
  | announce
  | listen (move : Listener.Move)
  /-- Somebody asks for a refinement. -/
  | call (queries : List LogicalQuery)
  /-- A caller takes its next step by itself. -/
  | proceed (caller : Nat)
  /-- An attempt of a caller to deliver a message has its outcome. -/
  | send (caller : Nat) (outcome : Except ChannelError Unit)
  /-- A shutdown of the program is requested. -/
  | request
  /-- Time passes. -/
  | wait (d : Nat)
deriving DecidableEq

variable (c : Collaborators) (plan : Plan)

/-- The control plane with the run in another phase. -/
def enter (o : Orchestration) (r : Run) (phase : Run.Phase) : Orchestration :=
  { o with run := some { r with phase } }

/-- Whoever holds the pipeline and the desk gives up both. -/
def release (o : Orchestration) : Orchestration :=
  { o with holder := none, desk := o.desk.leave }

/-- The run after some progress in sending the initial configuration. -/
def pushed (o : Orchestration) (r : Run) (s : Supervision) :
    Parcel.Progress → Orchestration
  | .underway parcel => o.enter r (.pushing parcel s)
  | .over (.ok ()) => o.release.enter r (.supervising s)
  | .over (.error e) => o.release.enter r (.failing (.distributor e) s)

/-- All workers are ready: the queries are compiled, and the initial configuration is sent. -/
def push (o : Orchestration) (r : Run) (s : Supervision) : Orchestration :=
  match o.pipeline.run c plan.candidates r.queries with
  | (.error e, p) => { o with pipeline := p }.release.enter r (.failing (.pipeline e) s)
  | (.ok pass, p) => { o with pipeline := p }.pushed r s (o.desk.begin (pass.initial p))

/-- The run ends when the supervision does: with `error` if there is one already, and else with what
the supervision reports. -/
def conclude (o : Orchestration) (r : Run) (s : Supervision) (error : Option OrchestrationError) :
    Option Orchestration :=
  s.outcome?.map fun outcome =>
    o.enter r (.ended (match error with
      | some e => .error e
      | none => outcome.mapError .worker))

/-- What comes of the runner's next step. -/
def advance (requestFirst : Bool) (o : Orchestration) (r : Run) : Option Orchestration :=
  match r.phase with
  | .waiting =>
    if o.holder = none then some ({ o with holder := some .runner }.enter r .approaching) else none
  | .approaching => (o.desk.take .runner).map fun desk => { o with desk }.enter r .binding
  | .binding => none
  | .starting b =>
    match b.phase with
    | .ready => some (o.push c plan r (.ofMembers b.tokens b.members))
    | .failed e => some (o.release.enter r (.ended (.error (.bootstrap e))))
    | _ => some (o.enter r (.starting ({ b with now := o.now }.next requestFirst)))
  | .pushing _ _ => none
  | .failing e s => some (o.enter r (.stopping e { s with tokens.set := true }))
  | .stopping e s => o.conclude r s (some e)
  | .supervising s => o.conclude r s none
  | .ended _ => none

/-- The output listener as a worker. -/
def listenerWorker : PendingWorker := ⟨.outputListener, WorkerKind.outputListener.name⟩

/-- The address of the output listener is bound, or cannot be. -/
def bind (o : Orchestration) (r : Run) (outcome : Except SystemError Unit) : Option Orchestration :=
  match r.phase, outcome with
  | .binding, .ok () =>
    some (o.enter r (.starting
      (.start o.now o.shutdown plan.readinessTimeout (r.workers ++ [listenerWorker]))))
  | .binding, .error e =>
    some (o.release.enter r (.ended (.error (.feedback (.bind plan.outputAddress e)))))
  | _, _ => none

/-- An attempt of the runner has its outcome. -/
def deliver (o : Orchestration) (r : Run) (outcome : Except ChannelError Unit) :
    Option Orchestration :=
  match r.phase with
  | .pushing parcel s =>
    let (desk, progress) := o.desk.attempt plan.terms parcel outcome
    some ({ o with desk }.pushed r s progress)
  | _ => none

/-- The runner sees that a worker has ended. -/
def observe (o : Orchestration) (r : Run) (position : Nat) : Option Orchestration :=
  match r.phase with
  | .stopping e s => some (o.enter r (.stopping e (s.observe position)))
  | .supervising s => some (o.enter r (.supervising (s.observe position)))
  | _ => none

/-- The output listener is the last of the workers. -/
def listenerPosition (r : Run) : Nat := r.members.length - 1

/-- How the listener's work ends, if it has ended. -/
def listenerEnding (l : Listener) : Option Ending :=
  match l.phase with
  | .ended (.ok ()) => some .returned
  | .ended (.error e) => some (.failed (.feedback e))
  | _ => none

/-- The output listener makes a move; its end is the end of its task. -/
def listen (o : Orchestration) (r : Run) (m : Listener.Move) : Option Orchestration := do
  let tokens ← r.tokens?
  let (listener, desk) ← r.listener.next plan.terms plan.receiveLimit tokens.cancelled o.desk m
  let r := { r with listener }
  let r := match listenerEnding listener with
    | some ending => r.act (listenerPosition r) (.finish ending)
    | none => r
  return { o with desk, run := some r }

/-- The control plane with another state of one caller. -/
def setCaller (o : Orchestration) (i : Nat) (x : Caller) (phase : Caller.Phase) : Orchestration :=
  { o with callers := o.callers.set i { x with phase } }

/-- A caller after some progress in sending what it has compiled. -/
def refined (o : Orchestration) (i : Nat) (x : Caller) (pass : Pass) :
    Parcel.Progress → Orchestration
  | .underway parcel => o.setCaller i x (.pushing pass parcel)
  | .over (.ok ()) => o.release.setCaller i x (.ended (.ok pass))
  | .over (.error e) => o.release.setCaller i x (.ended (.error (.distributor e)))

/-- A caller at the desk compiles its queries, if the initial configuration has been delivered, and
begins to send what comes of them. -/
def refine (o : Orchestration) (i : Nat) (x : Caller) : Orchestration :=
  if o.desk.distributor.isInitialized then
    match o.pipeline.run c plan.candidates x.queries with
    | (.error e, p) =>
      { o with pipeline := p }.release.setCaller i x (.ended (.error (.pipeline e)))
    | (.ok pass, p) => { o with pipeline := p }.refined i x pass (o.desk.begin (pass.refinement p))
  else o.release.setCaller i x (.ended (.error (.distributor .notInitialized)))

/-- What comes of the next step of a caller. -/
def proceed (o : Orchestration) (i : Nat) (x : Caller) : Option Orchestration :=
  match x.phase with
  | .waiting =>
    if o.holder = none then
      some ({ o with holder := some (.caller i) }.setCaller i x .approaching)
    else none
  | .approaching => (o.desk.take (.caller i)).map fun desk => { o with desk }.refine c plan i x
  | .pushing _ _ => none
  | .ended _ => none

/-- An attempt of a caller has its outcome. -/
def send (o : Orchestration) (i : Nat) (x : Caller) (outcome : Except ChannelError Unit) :
    Option Orchestration :=
  match x.phase with
  | .pushing pass parcel =>
    let (desk, progress) := o.desk.attempt plan.terms parcel outcome
    some ({ o with desk }.refined i x pass progress)
  | _ => none

/-- The control plane after a move, if it can be made now. -/
def next (o : Orchestration) : Move → Option Orchestration
  | .advance requestFirst => o.run.bind (o.advance c plan requestFirst)
  | .bind outcome => o.run.bind fun r => o.bind plan r outcome
  | .deliver outcome => o.run.bind fun r => o.deliver plan r outcome
  | .observe position => o.run.bind fun r => o.observe r position
  | .work position event =>
    o.run.bind fun r =>
      if position < listenerPosition r then some { o with run := some (r.act position event) }
      else none
  | .announce =>
    o.run.bind fun r =>
      if r.members.isEmpty then none
      else some { o with run := some (r.act (listenerPosition r) .signal) }
  | .listen m => o.run.bind fun r => o.listen plan r m
  | .call queries => some { o with callers := o.callers ++ [{ queries }] }
  | .proceed i => o.callers[i]?.bind (o.proceed c plan i)
  | .send i outcome => o.callers[i]?.bind fun x => o.send plan i x outcome
  | .request => some { o with shutdown := true, run := o.run.map Run.request }
  | .wait d => some { o with now := o.now + d }

/-- A run begins, unless one is under way. -/
def begin (o : Orchestration) (queries : List LogicalQuery) (workers : List PendingWorker) :
    Option Orchestration :=
  if o.run.all fun r => r.outcome?.isSome then some { o with run := some { queries, workers } }
  else none

/-- What may come of a control plane without another run. -/
inductive Reaches (o : Orchestration) : Orchestration → Prop
  | refl : Reaches o o
  | tail {p q : Orchestration} (m : Move) : Reaches o p → p.next c plan m = some q → Reaches o q

/-- The control plane after several moves in order, if all of them can be made. -/
def replay (o : Orchestration) : List Move → Option Orchestration
  | [] => some o
  | m :: rest => (o.next c plan m).bind fun o => o.replay rest

end ControlPlane.Orchestration
