import ControlPlane.Query.Collaborators

/-!
# The pipeline's state and errors

## Main definitions

- `Pipeline`: the next id and the compiled halves of both planes so far.
- `Pass`: what one pass has compiled.
- `PipelineError`: where and why a pass stopped.
-/

namespace ControlPlane

/-- The stages of a pass. -/
inductive Stage
  | refine
  | partition
  | compile
deriving DecidableEq

/-- The name of a stage. -/
def Stage.name : Stage → String
  | .refine => "refine"
  | .partition => "partition"
  | .compile => "compile"

/-- Where and why a pass stopped. -/
inductive PipelineError
  | refine (logicalIndex : Nat) (reason : String)
  | partition (logicalIndex variant : Nat) (reason : String)
  /-- No plan was selected, or one that was not proposed. -/
  | noPartitionPlan (logicalIndex variant : Nat)
  | compile (logicalIndex variant : Nat) (id : QueryId) (plane : Plane) (reason : String)
deriving DecidableEq

namespace PipelineError

/-- The stage in which the pass stopped. -/
def stage : PipelineError → Stage
  | .refine .. => .refine
  | .partition .. => .partition
  | .noPartitionPlan .. => .partition
  | .compile .. => .compile

/-- The position of the logical query at which the pass stopped. -/
def logicalIndex : PipelineError → Nat
  | .refine i _ => i
  | .partition i _ _ => i
  | .noPartitionPlan i _ => i
  | .compile i _ _ _ _ => i

/-- The id that had been assigned to the variant at which the pass stopped. -/
def queryId : PipelineError → Option QueryId
  | .compile _ _ id _ _ => some id
  | _ => none

/-- `logical query i, variant v`. -/
def variantText (i v : Nat) : String :=
  "logical query " ++ toString i ++ ", variant " ++ toString v

/-- The text of an error. -/
def message : PipelineError → String
  | .refine i reason => "refine stage failed for logical query " ++ toString i ++ ": " ++ reason
  | .partition i v reason => "partition stage failed for " ++ variantText i v ++ ": " ++ reason
  | .noPartitionPlan i v => "partition stage found no usable plan for " ++ variantText i v
  | .compile i v id plane reason =>
    "compile stage failed for query " ++ toString id.toNat ++ " (" ++ plane.name ++ ") of " ++
      variantText i v ++ ": " ++ reason

end PipelineError

/-- The compiled halves of one pass; the two lists are equally long. -/
structure Pass where
  data : List CompiledQuery
  stream : List CompiledQuery
deriving DecidableEq

/-- A pass that has compiled nothing. -/
def Pass.empty : Pass := ⟨[], []⟩

/-- The number of variants that a pass has compiled. -/
def Pass.size (p : Pass) : Nat := p.data.length

/-- A pass with one more variant. -/
def Pass.push (p : Pass) (data stream : CompiledQuery) : Pass :=
  ⟨p.data ++ [data], p.stream ++ [stream]⟩

/-- The state of the pipeline. -/
structure Pipeline where
  /-- The id of the next variant. -/
  nextId : QueryId
  /-- The halves for the data plane, since the last reset. -/
  data : List CompiledQuery
  /-- The halves for the stream plane, since the last reset. -/
  stream : List CompiledQuery
  /-- The number of passes since the last reset, which wraps around at `2 ^ 64`. -/
  passes : UInt64
deriving DecidableEq

namespace Pipeline

/-- A pipeline that has compiled nothing; resetting one leads back to it. -/
def fresh : Pipeline := ⟨QueryId.first, [], [], 0⟩

/-- A pipeline with one more variant. -/
def commit (p : Pipeline) (data stream : CompiledQuery) : Pipeline :=
  { p with data := p.data ++ [data], stream := p.stream ++ [stream] }

end Pipeline

/-- The number of plans that are asked for unless something else is set. -/
def defaultCandidates : Nat := 4

end ControlPlane
