import ControlPlane.Pipeline.Basic

/-!
# Passes of the pipeline

A pass takes logical queries in order. Every variant of a query is split, numbered and compiled for
both planes; both halves are compiled before either is kept, so that the two collections always
match. The first failure ends the pass, and what was kept before it stays.

## Main definitions

- `Pipeline.compileVariant`: one variant, and the next id after it.
- `Pipeline.run`: a pass.
-/

namespace ControlPlane.Pipeline

variable (c : Collaborators) (most : Nat)

/-- The variant with the plan that is taken for it. -/
def choosePlan (logicalIndex : Nat) (q : RefinedQuery) : Except PipelineError RefinedQuery :=
  match c.propose q most with
  | .error reason => .error (.partition logicalIndex q.variant reason)
  | .ok plans =>
    match (c.select q plans).bind (plans[·]?) with
    | none => .error (.noPartitionPlan logicalIndex q.variant)
    | some plan => .ok { q with plans, chosen := some plan }

/-- The two halves of a variant that has a plan, under the id `id`. -/
def compileHalves (logicalIndex : Nat) (q : RefinedQuery) (id : QueryId) :
    Except PipelineError (CompiledQuery × CompiledQuery) :=
  match c.compileData q id with
  | .error reason => .error (.compile logicalIndex q.variant id .data reason)
  | .ok data =>
    match c.compileStream q id with
    | .error reason => .error (.compile logicalIndex q.variant id .stream reason)
    | .ok stream => .ok (data, stream)

/-- The two halves of a variant, and the next id. An id is used up as soon as there is a plan. -/
def compileVariant (logicalIndex : Nat) (q : RefinedQuery) (id : QueryId) :
    Except PipelineError (CompiledQuery × CompiledQuery) × QueryId :=
  match choosePlan c most logicalIndex q with
  | .error e => (.error e, id)
  | .ok q => (compileHalves c logicalIndex q id, id.next)

/-- The variants of one logical query, up to the first that fails. -/
def runVariants (logicalIndex : Nat) :
    List RefinedQuery → Pass → Pipeline → Except PipelineError Pass × Pipeline
  | [], pass, p => (.ok pass, p)
  | q :: rest, pass, p =>
    match compileVariant c most logicalIndex q p.nextId with
    | (.error e, next) => (.error e, { p with nextId := next })
    | (.ok (data, stream), next) =>
      runVariants logicalIndex rest (pass.push data stream)
        ({ p with nextId := next }.commit data stream)

/-- Logical queries from the position `logicalIndex` on, up to the first that fails. -/
def runQueries :
    List LogicalQuery → (logicalIndex : Nat) → Pass → Pipeline →
      Except PipelineError Pass × Pipeline
  | [], _, pass, p => (.ok pass, p)
  | q :: rest, i, pass, p =>
    match c.refine q i with
    | .error reason => (.error (.refine i reason), p)
    | .ok variants =>
      match runVariants c most i variants pass p with
      | (.error e, p) => (.error e, p)
      | (.ok pass, p) => runQueries rest (i + 1) pass p

/-- A pass over `queries`, with at most `most` plans for each variant. -/
def run (p : Pipeline) (queries : List LogicalQuery) : Except PipelineError Pass × Pipeline :=
  runQueries c most queries 0 .empty { p with passes := p.passes + 1 }

end ControlPlane.Pipeline
