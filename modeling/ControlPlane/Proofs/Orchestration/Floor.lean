import ControlPlane.Orchestration.Step
import ControlPlane.Proofs.Pipeline.Numbering
import Mathlib.Logic.Function.Basic

/-!
# What the parties of a control plane share

The runner, the callers and the output listener meet at two places only: the pipeline and the
distributor's desk. Where each of them stands towards these two, and what any move can change about
that, is all that matters for the order in which messages go out.

## Main definitions

- `Standing`: where a party stands.
- `Floor`: the pipeline, the desk, and where every party stands.
- `Deed`: what a move adds to the history of a control plane.
- `Floor.Step`: what a move can do to the floor.
-/

namespace ControlPlane

/-- Where a party stands towards the pipeline and the desk. -/
inductive Standing
  /-- It holds nothing, and may still come. -/
  | outside
  /-- It holds the pipeline. -/
  | holding
  /-- It holds the pipeline and the desk, and has compiled nothing yet. -/
  | preparing
  /-- It is at the desk and delivers messages. -/
  | sending (parcel : Parcel)
  /-- It was told that the initial configuration is missing. -/
  | refused
  /-- All its messages have been delivered. -/
  | served
  /-- It has failed for another reason. -/
  | gone
deriving DecidableEq

/-- Where a party stands after a failure. -/
def OrchestrationError.standing : OrchestrationError → Standing
  | .distributor .notInitialized => .refused
  | _ => .gone

/-- After a failure a party was refused, or it is gone. -/
theorem OrchestrationError.standing_cases (e : OrchestrationError) :
    e.standing = .refused ∨ e.standing = .gone := by
  unfold standing
  split
  · exact .inl rfl
  · exact .inr rfl

/-- Where the runner stands. -/
def Run.Phase.standing : Run.Phase → Standing
  | .waiting => .outside
  | .approaching => .holding
  | .binding => .preparing
  | .starting _ => .preparing
  | .pushing parcel _ => .sending parcel
  | .failing e _ => e.standing
  | .stopping e _ => e.standing
  | .supervising _ => .served
  | .ended (.error e) => e.standing
  | .ended (.ok ()) => .served

/-- Where a caller stands. -/
def Caller.Phase.standing : Caller.Phase → Standing
  | .waiting => .outside
  | .approaching => .holding
  | .pushing _ parcel => .sending parcel
  | .ended (.ok _) => .served
  | .ended (.error e) => e.standing

/-- Where the output listener stands. It never holds the pipeline, and comes to the desk again and
again. -/
def Listener.Phase.standing : Listener.Phase → Standing
  | .sending _ parcel => .sending parcel
  | .ended (.error (.forward .notInitialized)) => .refused
  | _ => .outside

/-- Where each party stands. -/
def Orchestration.standing (o : Orchestration) : Party → Standing
  | .runner => o.run.elim .outside fun r => r.phase.standing
  | .listener => o.run.elim .outside fun r => r.listener.phase.standing
  | .caller i => o.callers[i]?.elim .outside fun x => x.phase.standing

/-- What the parties share, and where each of them stands. -/
structure Floor where
  pipeline : Pipeline
  /-- Who holds the pipeline. -/
  holder : Option Party
  desk : Desk
  standing : Party → Standing

/-- The floor of a control plane. -/
def Orchestration.floor (o : Orchestration) : Floor := ⟨o.pipeline, o.holder, o.desk, o.standing⟩

/-- What a move adds to the history of a control plane. -/
inductive Deed
  /-- A party had its queries compiled; `given` are the ids that were handed out, and `kept` those
  of the variants that were kept. -/
  | compiled (party : Party) (given kept : List QueryId)
  /-- A message of a party has been received. -/
  | delivered (party : Party) (message : Outgoing)
deriving DecidableEq

/-- Whose deed it is. -/
def Deed.party : Deed → Party
  | .compiled party _ _ => party
  | .delivered party _ => party

namespace Floor

/-- A party changes its standing. -/
def move (F : Floor) (p : Party) (s : Standing) : Floor :=
  { F with standing := Function.update F.standing p s }

/-- A party takes its place at the desk. -/
def seat (F : Floor) (p : Party) : Floor := { F with desk := { F.desk with holder := some p } }

/-- A party gives up the desk, and the pipeline if it holds it. -/
def vacate (F : Floor) (p : Party) : Floor :=
  { F with holder := if p = .listener then F.holder else none, desk := F.desk.leave }

/-- Where a party stands when its messages are over. -/
def resting (p : Party) : Except DistributorError Unit → Standing
  | .ok () => if p = .listener then .outside else .served
  | .error e =>
    if e = .notInitialized then .refused else if p = .listener then .outside else .gone

/-- The floor after some progress of a party in delivering messages. -/
def settle (F : Floor) (p : Party) : Parcel.Progress → Floor
  | .underway parcel => F.move p (.sending parcel)
  | .over outcome => (F.vacate p).move p (resting p outcome)

/-- The floor after a party at the desk has had its queries compiled; `messages` follow from the
pass if it succeeds. -/
def compile (c : Collaborators) (plan : Plan) (F : Floor) (p : Party) (queries : List LogicalQuery)
    (messages : Pass → Pipeline → List Outgoing) : Floor :=
  match F.pipeline.run c plan.candidates queries with
  | (.error _, q) => ({ F with pipeline := q }.vacate p).move p .gone
  | (.ok pass, q) => { F with pipeline := q }.settle p (F.desk.begin (messages pass q))

end Floor

/-- The deed of a party that has its queries compiled by a pipeline. -/
def Deed.ofPass (c : Collaborators) (plan : Plan) (pipeline : Pipeline) (p : Party)
    (queries : List LogicalQuery) : Deed :=
  .compiled p (pipeline.assigned c plan.candidates queries)
    (Pipeline.ids
      ((pipeline.run c plan.candidates queries).2.data.drop pipeline.data.length))

/-- The deed of a party whose attempt to deliver a message has its outcome, if it is one. -/
def Deed.ofAttempt (p : Party) (parcel : Parcel) : Except ChannelError Unit → List Deed
  | .ok () => [.delivered p parcel.message]
  | .error _ => []

/-- What a move can do to the floor, and what it adds to the history. -/
inductive Floor.Step (c : Collaborators) (plan : Plan) : Floor → List Deed → Floor → Prop
  /-- Nothing that is shared changes. -/
  | quiet (F : Floor) : Step c plan F [] F
  /-- The runner or a caller takes the pipeline. -/
  | take {F : Floor} {p : Party} (hp : p ≠ .listener) (free : F.holder = none)
      (h : F.standing p = .outside) :
      Step c plan F [] ({ F with holder := some p }.move p .holding)
  /-- The runner takes the desk. -/
  | enter {F : Floor} (free : F.desk.holder = none) (h : F.standing .runner = .holding) :
      Step c plan F [] ((F.seat .runner).move .runner .preparing)
  /-- The runner gives up before it has compiled anything. -/
  | abandon {F : Floor} (h : F.standing .runner = .preparing) :
      Step c plan F [] ((F.vacate .runner).move .runner .gone)
  /-- The runner compiles its queries. -/
  | initial {F : Floor} (queries : List LogicalQuery) (h : F.standing .runner = .preparing) :
      Step c plan F [.ofPass c plan F.pipeline .runner queries]
        (F.compile c plan .runner queries Pass.initial)
  /-- A caller comes to the desk before the initial configuration has been delivered. -/
  | refuse {F : Floor} {i : Nat} (free : F.desk.holder = none)
      (h : F.standing (.caller i) = .holding)
      (hinit : F.desk.distributor.isInitialized = false) :
      Step c plan F [] ((F.vacate (.caller i)).move (.caller i) .refused)
  /-- A caller comes to the desk and compiles its queries. -/
  | refinement {F : Floor} {i : Nat} (queries : List LogicalQuery) (free : F.desk.holder = none)
      (h : F.standing (.caller i) = .holding)
      (hinit : F.desk.distributor.isInitialized = true) :
      Step c plan F [.ofPass c plan F.pipeline (.caller i) queries]
        ((F.seat (.caller i)).compile c plan (.caller i) queries Pass.refinement)
  /-- The output listener, which is there once the runner has bound its address, comes to the desk
  with an event. -/
  | approach {F : Floor} (event : OutputEvent) (free : F.desk.holder = none)
      (h : F.standing .listener = .outside) (houtside : F.standing .runner ≠ .outside)
      (hholding : F.standing .runner ≠ .holding) :
      Step c plan F []
        ((F.seat .listener).settle .listener (F.desk.begin [.delta (.output event)]))
  /-- An attempt to deliver a message has its outcome. -/
  | attempt {F : Floor} {p : Party} {parcel : Parcel} (outcome : Except ChannelError Unit)
      (h : F.standing p = .sending parcel) :
      Step c plan F (Deed.ofAttempt p parcel outcome)
        ({ F with desk := (F.desk.attempt plan.terms parcel outcome).1 }.settle p
          (F.desk.attempt plan.terms parcel outcome).2)
  /-- The output listener is told to stop while it is at the desk. -/
  | stop {F : Floor} {parcel : Parcel} (h : F.standing .listener = .sending parcel) :
      Step c plan F [] ((F.vacate .listener).move .listener .outside)
  /-- The run fails after the initial configuration has been sent. -/
  | close {F : Floor} (h : F.standing .runner = .served) :
      Step c plan F [] (F.move .runner .gone)

end ControlPlane
