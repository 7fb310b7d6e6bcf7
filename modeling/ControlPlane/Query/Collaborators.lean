import ControlPlane.Query.Basic

/-!
# Collaborators of the pipeline

The pipeline itself only numbers and collects. What the variants of a query are, how they may be
split, which split is taken and what the halves look like is decided by collaborators, which may
also refuse with a text. The reference collaborators treat a query as a chain of operators and a
plan as a position in that chain.

## Main definitions

- `Collaborators`: the five decisions.
- `Collaborators.reference`: the reference ones.
- `Collaborators.Script`: reference collaborators that are made to refuse or to answer otherwise at
  chosen places.
-/

namespace ControlPlane

/-- The decisions that the pipeline leaves to others. -/
structure Collaborators where
  /-- The variants of a logical query at a position of its pass. -/
  refine : LogicalQuery → (logicalIndex : Nat) → Except String (List RefinedQuery)
  /-- Plans for a variant, best first, at most as many as are asked for. -/
  propose : RefinedQuery → (most : Nat) → Except String (List PartitionPlan)
  /-- The position of the plan that is taken. -/
  select : RefinedQuery → List PartitionPlan → Option Nat
  /-- The half of a variant for the data plane. -/
  compileData : RefinedQuery → QueryId → Except String CompiledQuery
  /-- The half of a variant for the stream plane. -/
  compileStream : RefinedQuery → QueryId → Except String CompiledQuery

namespace RefinedQuery

/-- A variant for which no plans have been proposed yet. -/
def fresh (q : LogicalQuery) (logicalIndex variant : Nat) (level : Option UInt8) : RefinedQuery :=
  { logicalIndex, variant, name := q.name, operators := q.operators, level, plans := []
    chosen := none }

/-- The two parts of the chain at the chosen split. -/
def halves (q : RefinedQuery) : Except String (List String × List String) :=
  match q.chosen with
  | none => .error ("no partition plan selected for '" ++ q.name ++ "'")
  | some plan =>
    if q.operators.length < plan.split then
      .error ("split " ++ toString plan.split ++ " exceeds " ++ toString q.operators.length ++
        " operators in '" ++ q.name ++ "'")
    else .ok (q.operators.take plan.split, q.operators.drop plan.split)

/-- The operator that narrows a variant to its level. -/
def levelOperator (level : UInt8) : String := "refine(" ++ toString level.toNat ++ ")"

end RefinedQuery

namespace Reference

/-- No variants of a query without operators, one per level of a query with levels, and otherwise a
single one without a level. -/
def refine (q : LogicalQuery) (logicalIndex : Nat) : List RefinedQuery :=
  if q.operators.isEmpty then []
  else if q.levels.isEmpty then [.fresh q logicalIndex 0 none]
  else q.levels.mapIdx fun variant level => .fresh q logicalIndex variant (some level)

/-- Every split of a chain, from the whole of it on the data plane down to none. -/
def splits (n : Nat) : List Nat := (List.range (n + 1)).reverse

/-- The first `most` splits. -/
def propose (q : RefinedQuery) (most : Nat) : List PartitionPlan :=
  ((splits q.operators.length).take most).map PartitionPlan.mk

/-- The first plan, if there is one. -/
def selectFirst (plans : List PartitionPlan) : Option Nat :=
  if plans.isEmpty then none else some 0

/-- The expression for a chain: its operators joined by points. -/
def render (operators : List String) : String :=
  if operators.isEmpty then "identity" else String.intercalate "." operators

/-- The first part of the chain, with the level operator of a refined variant in front. -/
def compileData (q : RefinedQuery) (id : QueryId) : Except String CompiledQuery :=
  match q.halves with
  | .error e => .error e
  | .ok (front, _) =>
    .ok ⟨id, render ((q.level.map RefinedQuery.levelOperator).toList ++ front)⟩

/-- The second part of the chain. -/
def compileStream (q : RefinedQuery) (id : QueryId) : Except String CompiledQuery :=
  match q.halves with
  | .error e => .error e
  | .ok (_, back) => .ok ⟨id, render back⟩

end Reference

/-- The reference collaborators. -/
def Collaborators.reference : Collaborators where
  refine q i := .ok (Reference.refine q i)
  propose q most := .ok (Reference.propose q most)
  select _ plans := Reference.selectFirst plans
  compileData := Reference.compileData
  compileStream := Reference.compileStream

/-- How a plan is picked from those proposed. -/
inductive Selection
  | first
  | last
  | nothing
  /-- A fixed position, whether there is a plan or not. -/
  | position (index : Nat)
deriving DecidableEq

/-- The position that a selection picks. -/
def Selection.pick (s : Selection) (plans : List PartitionPlan) : Option Nat :=
  match s with
  | .first => Reference.selectFirst plans
  | .last => if plans.isEmpty then none else some (plans.length - 1)
  | .nothing => none
  | .position i => some i

/-- Where collaborators depart from the reference ones. -/
structure Collaborators.Script where
  /-- The positions of logical queries that are not refined. -/
  refusedQueries : List Nat := []
  /-- The positions of variants that are not split. -/
  refusedVariants : List Nat := []
  /-- The splits that are proposed instead, however many are asked for. -/
  splits : Option (List Nat) := none
  selection : Selection := .first
  /-- The ids that are not compiled for the data plane. -/
  refusedData : List Nat := []
  /-- The ids that are not compiled for the stream plane. -/
  refusedStream : List Nat := []

/-- The reference collaborators with the departures of a script. -/
def Collaborators.scripted (s : Collaborators.Script) : Collaborators where
  refine q i :=
    if s.refusedQueries.contains i then .error "refiner refused" else .ok (Reference.refine q i)
  propose q most :=
    if s.refusedVariants.contains q.variant then .error "partitioner refused"
    else
      match s.splits with
      | some splits => .ok (splits.map PartitionPlan.mk)
      | none => .ok (Reference.propose q most)
  select _ plans := s.selection.pick plans
  compileData q id :=
    if s.refusedData.contains id.toNat then .error "unsupported operator"
    else Reference.compileData q id
  compileStream q id :=
    if s.refusedStream.contains id.toNat then .error "unsupported operator"
    else Reference.compileStream q id

end ControlPlane
