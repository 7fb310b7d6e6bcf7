/-!
# Queries

A logical query is a named chain of operators that someone wrote. It is refined into variants, a
variant is split between the two planes, and each half is compiled. The two compiled halves of a
variant carry the same id.

## Main definitions

- `LogicalQuery`, `RefinedQuery`, `CompiledQuery`: a query on its way through the pipeline.
- `PartitionPlan`: where a chain is split.
- `Plane`: the two sides that run compiled halves.
-/

namespace ControlPlane

/-- The number that joins the two compiled halves of a variant. -/
abbrev QueryId := UInt64

/-- The first id of a fresh pipeline. -/
def QueryId.first : QueryId := 1

/-- The id after this one. -/
def QueryId.next (id : QueryId) : QueryId := id + 1

/-- A query as it was written. -/
structure LogicalQuery where
  name : String
  /-- The operators, in the order in which they are applied. -/
  operators : List String
  /-- The levels at which the query is to be refined. -/
  levels : List UInt8
deriving DecidableEq

/-- A way to split a chain of operators: the first `split` of them run on the data plane. -/
structure PartitionPlan where
  split : Nat
deriving DecidableEq

/-- One variant of a logical query. -/
structure RefinedQuery where
  /-- The position of the logical query in its pass. -/
  logicalIndex : Nat
  /-- The position of the variant among those of its logical query. -/
  variant : Nat
  name : String
  operators : List String
  /-- The level of the variant, if the query has levels. -/
  level : Option UInt8
  /-- The plans that were proposed. -/
  plans : List PartitionPlan
  /-- The plan that was chosen. -/
  chosen : Option PartitionPlan
deriving DecidableEq

/-- One compiled half of a variant. -/
structure CompiledQuery where
  id : QueryId
  expr : String
deriving DecidableEq

/-- The side that runs a compiled half. -/
inductive Plane
  /-- The packet-processing side, configured through the fabric manager. -/
  | data
  /-- The stream-processing side, configured through the streaming manager. -/
  | stream
deriving DecidableEq

/-- The name of a plane in messages. -/
def Plane.name : Plane → String
  | .data => "data-plane"
  | .stream => "stream-plane"

end ControlPlane
