import ControlPlane.Bootstrap.Supervision
import ControlPlane.Feedback.Listener
import ControlPlane.Orchestration.Error
import ControlPlane.Orchestration.Plan
import ControlPlane.Pipeline.Run

/-!
# The state of a control plane

Whoever runs the control plane brings up the workers and the output listener, compiles the queries
and sends the initial configuration. After that the workers are supervised to their end. Meanwhile
others may ask for refinements, which compile more queries and send a change.

All of them share one pipeline and one distributor. Whoever compiles and sends holds the pipeline
and then the distributor's desk until everything is sent; the output listener takes the desk alone.

## Main definitions

- `Run`: one run, and how far it has got.
- `Caller`: a request for a refinement, and how far it has got.
- `Orchestration`: the control plane.
- `Pass.initial`, `Pass.refinement`: the messages that follow from a pass.
-/

namespace ControlPlane

/-- The messages after the first pass: the new halves for the fabric manager, and all halves for the
streaming manager. -/
def Pass.initial (pass : Pass) (p : Pipeline) : List Outgoing :=
  [.init pass.data, .streamConfig p.stream]

/-- The messages after every further pass: the new halves for the fabric manager, and all halves for
the streaming manager. -/
def Pass.refinement (pass : Pass) (p : Pipeline) : List Outgoing :=
  [.delta (.queries pass.data), .streamConfig p.stream]

/-- The terms of delivery that a plan sets. -/
def Plan.terms (plan : Plan) : Terms := ⟨plan.retry, plan.fabricEndpoint, plan.streamingEndpoint⟩

/-- How far a run has got. -/
inductive Run.Phase
  /-- It waits for the pipeline. -/
  | waiting
  /-- It holds the pipeline and waits for the distributor's desk. -/
  | approaching
  /-- It holds both, and is about to bind the address of the output listener. -/
  | binding
  /-- It holds both, and the workers are being brought up. -/
  | starting (bootstrap : Bootstrap)
  /-- It holds both, and the initial configuration is being sent. -/
  | pushing (parcel : Parcel) (supervision : Supervision)
  /-- It holds nothing any more; the initial configuration was not sent, and the workers are about
  to be told to stop. -/
  | failing (error : OrchestrationError) (supervision : Supervision)
  /-- The workers have been told to stop, and their ends are waited for. -/
  | stopping (error : OrchestrationError) (supervision : Supervision)
  /-- The initial configuration is sent, and the ends of the workers are waited for. -/
  | supervising (supervision : Supervision)
  | ended (outcome : Except OrchestrationError Unit)
deriving DecidableEq

/-- One run of the control plane. -/
structure Run where
  queries : List LogicalQuery
  /-- The workers; the output listener comes after them. -/
  workers : List PendingWorker
  listener : Listener := {}
  phase : Run.Phase := .waiting
deriving DecidableEq

namespace Run

/-- Who has been told to stop. -/
def tokens? (r : Run) : Option Tokens :=
  match r.phase with
  | .starting b => some b.tokens
  | .pushing _ s => some s.tokens
  | .failing _ s => some s.tokens
  | .stopping _ s => some s.tokens
  | .supervising s => some s.tokens
  | _ => none

/-- The workers that have been started, with the output listener as the last one. -/
def members (r : Run) : List Member :=
  match r.phase with
  | .starting b => b.members
  | .pushing _ s => s.members
  | .failing _ s => s.members
  | .stopping _ s => s.members
  | .supervising s => s.members
  | _ => []

/-- The worker at `position` does something. -/
def act (r : Run) (position : Nat) (e : Task.Event) : Run :=
  match r.phase with
  | .starting b => { r with phase := .starting (b.act position e) }
  | .pushing p s => { r with phase := .pushing p (s.act position e) }
  | .failing x s => { r with phase := .failing x (s.act position e) }
  | .stopping x s => { r with phase := .stopping x (s.act position e) }
  | .supervising s => { r with phase := .supervising (s.act position e) }
  | _ => r

/-- A shutdown of the program is requested. -/
def request (r : Run) : Run :=
  match r.phase with
  | .starting b => { r with phase := .starting { b with tokens.program := true } }
  | .pushing p s => { r with phase := .pushing p { s with tokens.program := true } }
  | .failing e s => { r with phase := .failing e { s with tokens.program := true } }
  | .stopping e s => { r with phase := .stopping e { s with tokens.program := true } }
  | .supervising s => { r with phase := .supervising { s with tokens.program := true } }
  | _ => r

/-- The outcome of a run that is over. -/
def outcome? (r : Run) : Option (Except OrchestrationError Unit) :=
  match r.phase with
  | .ended outcome => some outcome
  | _ => none

end Run

/-- How far a request for a refinement has got. -/
inductive Caller.Phase
  /-- It waits for the pipeline. -/
  | waiting
  /-- It holds the pipeline and waits for the distributor's desk. -/
  | approaching
  /-- It holds both, and what was compiled is being sent. -/
  | pushing (pass : Pass) (parcel : Parcel)
  | ended (outcome : Except OrchestrationError Pass)
deriving DecidableEq

/-- A request for a refinement. -/
structure Caller where
  queries : List LogicalQuery
  phase : Caller.Phase := .waiting
deriving DecidableEq

/-- The answer to a request, if there is one. -/
def Caller.answer? (c : Caller) : Option (Except OrchestrationError Pass) :=
  match c.phase with
  | .ended outcome => some outcome
  | _ => none

/-- A control plane. -/
structure Orchestration where
  now : Instant := 0
  /-- Whether a shutdown of the program has been requested. -/
  shutdown : Bool := false
  pipeline : Pipeline := .fresh
  /-- Who holds the pipeline. -/
  holder : Option Party := none
  desk : Desk := {}
  run : Option Run := none
  callers : List Caller := []
deriving DecidableEq

end ControlPlane
