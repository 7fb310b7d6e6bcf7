import ControlPlane.Pipeline.Run
import Mathlib.Data.List.Basic

/-!
# Partition of a chain

Wherever a chain of operators is split between the planes, the two halves together are the whole
chain, in its order. The reference collaborators propose the splits from the whole chain on the data
plane downwards; a plan that was not proposed is none.

## Main definitions

- `Collaborators.selecting`: the reference collaborators with any selection of plans.
- `Reference.Shares`: two expressions that together are a chain.
- `Pipeline.Partitioned`: what becomes of a variant, whatever plan is selected for it.

## Main statements

- `Reference.map_split_propose`: the splits that are proposed.
- `Reference.shares_render`: the halves of a chain share it.
- `Pipeline.partitioned_of_refine`: what becomes of every variant of every query.
-/

namespace ControlPlane

/-- The reference collaborators, but for the selection of plans. -/
def Collaborators.selecting (select : RefinedQuery → List PartitionPlan → Option Nat) :
    Collaborators :=
  { Collaborators.reference with select }

namespace Reference

/-! ## Variants -/

/-- A variant has all operators of its query, and there are some. -/
theorem operators_of_mem_refine {q : LogicalQuery} {i : Nat} {v : RefinedQuery}
    (h : v ∈ refine q i) : v.operators = q.operators ∧ q.operators ≠ [] := by
  unfold refine at h
  split at h
  · cases h
  · next hsome =>
    have hne : q.operators ≠ [] := fun hnil => hsome (List.isEmpty_iff.mpr hnil)
    split at h
    · rw [List.mem_singleton] at h
      exact ⟨congrArg RefinedQuery.operators h, hne⟩
    · obtain ⟨variant, hvariant, rfl⟩ := List.mem_mapIdx.mp h
      exact ⟨rfl, hne⟩

/-! ## Plans -/

theorem splits_eq (n : Nat) : splits n = (List.range (n + 1)).map (n - ·) := by
  rw [splits]
  refine List.ext_getElem (by simp) fun j hj _ => ?_
  rw [List.length_reverse, List.length_range] at hj
  simp only [List.getElem_reverse, List.getElem_range, List.getElem_map, List.length_range]
  omega

/-- The splits that are proposed: the whole chain, then one operator less each time. -/
theorem map_split_propose (q : RefinedQuery) (most : Nat) :
    (propose q most).map (·.split) =
      (List.range (min most (q.operators.length + 1))).map (q.operators.length - ·) := by
  rw [propose, List.map_map, splits_eq, ← List.map_take, List.take_range]
  exact List.map_id _

theorem length_propose (q : RefinedQuery) (most : Nat) :
    (propose q most).length = min most (q.operators.length + 1) := by
  simpa using congrArg List.length (map_split_propose q most)

/-- Splits are proposed from the whole chain downwards. -/
theorem pairwise_propose (q : RefinedQuery) (most : Nat) :
    ((propose q most).map (·.split)).Pairwise (· > ·) := by
  rw [map_split_propose]
  refine List.pairwise_map.mpr (List.pairwise_lt_range.imp_of_mem ?_)
  intro i j hi hj hlt
  rw [List.mem_range] at hi hj
  omega

theorem split_of_getElem?_propose {q : RefinedQuery} {most j : Nat} {plan : PartitionPlan}
    (h : (propose q most)[j]? = some plan) :
    plan.split = q.operators.length - j ∧ plan.split ≤ q.operators.length := by
  have hsplit : ((propose q most).map (·.split))[j]? = some plan.split := by
    rw [List.getElem?_map, h]
    rfl
  rw [map_split_propose, List.getElem?_map] at hsplit
  obtain ⟨k, hk, hsub⟩ := Option.map_eq_some_iff.mp hsplit
  obtain ⟨_, rfl⟩ := List.getElem?_eq_some_iff.mp hk
  rw [List.getElem_range] at hsub
  omega

/-! ## Halves -/

/-- What stands before the operators of a half for the data plane. -/
def levelPart (level : Option UInt8) : String :=
  (level.map (RefinedQuery.levelOperator · ++ ".")).getD ""

/-- Two expressions that together are the chain of the operators, in their order. The data plane has
the first `split` of them, behind the operator that narrows the variant to its level. -/
structure Shares (operators : List String) (level : Option UInt8) (split : Nat)
    (data stream : String) : Prop where
  /-- Both planes have some of the operators. -/
  both : 0 < split → split < operators.length → ∃ front, data = levelPart level ++ front ∧
    front ++ "." ++ stream = String.intercalate "." operators
  /-- The data plane has all of them. -/
  allOnData : split = operators.length →
    data = levelPart level ++ String.intercalate "." operators ∧ stream = "identity"
  /-- The stream plane has all of them. -/
  allOnStream : split = 0 → stream = String.intercalate "." operators ∧
    data = (level.map RefinedQuery.levelOperator).getD "identity"

theorem render_of_ne_nil {operators : List String} (h : operators ≠ []) :
    render operators = String.intercalate "." operators :=
  if_neg (by simpa using h)

/-- The level operator is followed by a point if other operators follow. -/
theorem render_level {operators : List String} (h : operators ≠ []) (level : Option UInt8) :
    render ((level.map RefinedQuery.levelOperator).toList ++ operators) =
      levelPart level ++ String.intercalate "." operators := by
  rw [render_of_ne_nil (by simp [h])]
  cases level with
  | none => exact (String.empty_append).symm
  | some level =>
    rw [Option.map_some, Option.toList_some, List.singleton_append,
      String.intercalate_cons_of_ne_nil h]
    rfl

/-- The halves of a chain share it, wherever it is split. -/
theorem shares_render {operators : List String} (hne : operators ≠ []) (level : Option UInt8)
    (split : Nat) :
    Shares operators level split
      (render ((level.map RefinedQuery.levelOperator).toList ++ operators.take split))
      (render (operators.drop split)) where
  both hpos hlt := by
    have hfront : operators.take split ≠ [] := by
      simp [List.take_eq_nil_iff, hne, Nat.pos_iff_ne_zero.mp hpos]
    have hback : operators.drop split ≠ [] := by
      simpa [List.drop_eq_nil_iff] using hlt
    refine ⟨String.intercalate "." (operators.take split), render_level hfront level, ?_⟩
    rw [render_of_ne_nil hback, ← String.intercalate_append_of_ne_nil hfront hback,
      List.take_append_drop]
  allOnData h := by
    subst h
    rw [List.take_length, List.drop_length]
    exact ⟨render_level hne level, rfl⟩
  allOnStream h := by
    subst h
    rw [List.take_zero, List.drop_zero, List.append_nil]
    refine ⟨render_of_ne_nil hne, ?_⟩
    cases level with
    | none => rfl
    | some level =>
      rw [Option.map_some, Option.toList_some, render_of_ne_nil (List.cons_ne_nil _ _),
        String.intercalate_singleton]
      rfl

/-- Both halves of a variant are compiled if its plan does not split it behind its end. -/
theorem compile_of_split_le {q : RefinedQuery} {plan : PartitionPlan}
    (hchosen : q.chosen = some plan) (h : plan.split ≤ q.operators.length) (id : QueryId) :
    compileData q id = .ok ⟨id, render ((q.level.map RefinedQuery.levelOperator).toList ++
        q.operators.take plan.split)⟩ ∧
      compileStream q id = .ok ⟨id, render (q.operators.drop plan.split)⟩ := by
  have hhalves : q.halves =
      .ok (q.operators.take plan.split, q.operators.drop plan.split) := by
    rw [RefinedQuery.halves, hchosen]
    exact if_neg (Nat.not_lt.mpr h)
  rw [compileData, compileStream, hhalves]
  exact ⟨rfl, rfl⟩

end Reference

namespace Pipeline

open Reference (propose Shares)

/-- What becomes of a variant of the query `q`, whatever plan is selected for it. -/
structure Partitioned (select : RefinedQuery → List PartitionPlan → Option Nat) (most : Nat)
    (q : LogicalQuery) (logicalIndex : Nat) (id : QueryId) (v : RefinedQuery) : Prop where
  /-- As many splits are proposed as are asked for and there are, from the whole chain downwards. -/
  proposed : (Collaborators.selecting select).propose v most = .ok (propose v most) ∧
    (propose v most).map (·.split) = (List.range (min most (q.operators.length + 1))).map
      (q.operators.length - ·) ∧
    ((propose v most).map (·.split)).Pairwise (· > ·) ∧
    (propose v most).length = min most (q.operators.length + 1)
  /-- With any of them, both halves are compiled, and together they are the chain of the query. -/
  compiled : ∀ {j plan}, select v (propose v most) = some j → (propose v most)[j]? = some plan →
    plan.split = q.operators.length - j ∧
    ∃ data stream, compileVariant (.selecting select) most logicalIndex v id =
        (.ok (⟨id, data⟩, ⟨id, stream⟩), id.next) ∧
      Shares q.operators v.level plan.split data stream
  /-- Without any of them, there is no plan, and no id is used up. -/
  refused : (∀ j, select v (propose v most) = some j → (propose v most).length ≤ j) →
    compileVariant (.selecting select) most logicalIndex v id =
      (.error (.noPartitionPlan logicalIndex v.variant), id)

/-- The choice of a plan never changes the query: whatever is selected, and however many plans are
asked for, the halves of every variant of every query are the chain of that query. -/
theorem partitioned_of_refine (select : RefinedQuery → List PartitionPlan → Option Nat)
    (most : Nat) (q : LogicalQuery) (logicalIndex : Nat) (id : QueryId) :
    ∃ variants, (Collaborators.selecting select).refine q logicalIndex = .ok variants ∧
      ∀ v ∈ variants, Partitioned select most q logicalIndex id v := by
  refine ⟨Reference.refine q logicalIndex, rfl, fun v hv => ?_⟩
  obtain ⟨hoperators, hne⟩ := Reference.operators_of_mem_refine hv
  refine ⟨⟨rfl, ?proposed⟩, fun {j plan} hselect hplan => ?compiled, fun houtside => ?refused⟩
  case proposed =>
    rw [← hoperators]
    exact ⟨Reference.map_split_propose v most, Reference.pairwise_propose v most,
      Reference.length_propose v most⟩
  case compiled =>
    obtain ⟨hsplit, hle⟩ := Reference.split_of_getElem?_propose hplan
    have hchoose : choosePlan (.selecting select) most logicalIndex v =
        .ok { v with plans := propose v most, chosen := some plan } := by
      simp only [choosePlan, Collaborators.selecting, Collaborators.reference, hselect,
        Option.bind_some, hplan]
    obtain ⟨hdata, hstream⟩ := Reference.compile_of_split_le
      (q := { v with plans := propose v most, chosen := some plan }) rfl hle id
    refine ⟨hoperators ▸ hsplit, _, _, ?_, Reference.shares_render hne v.level plan.split⟩
    rw [compileVariant, hchoose]
    simp only [compileHalves, Collaborators.selecting, Collaborators.reference, hoperators]
    simp only [hoperators] at hdata hstream
    simp only [hdata, hstream]
  case refused =>
    have hnone : (select v (propose v most)).bind ((propose v most)[·]?) = none := by
      cases hselect : select v (propose v most) with
      | none => rfl
      | some j => exact List.getElem?_eq_none (houtside j hselect)
    have hchoose : choosePlan (.selecting select) most logicalIndex v =
        .error (.noPartitionPlan logicalIndex v.variant) := by
      simp only [choosePlan, Collaborators.selecting, Collaborators.reference, hnone]
    rw [compileVariant, hchoose]

/-- Of the splits 3, 2 and 1 of a chain of three operators, the second is selected. -/
theorem partitioned_behind_second :
    let q : LogicalQuery := ⟨"ddos", ["filter(proto == 17)", "map(dIP)", "reduce(sum)"], [8, 16]⟩
    let v : RefinedQuery := .fresh q 5 1 (some 16)
    let c : Collaborators := .selecting fun _ _ => some 1
    (∃ variants, c.refine q 5 = .ok variants ∧ v ∈ variants) ∧
      Partitioned (fun _ _ => some 1) 3 q 5 7 v ∧
      (Reference.propose v 3).map (·.split) = [3, 2, 1] ∧
      compileVariant c 3 5 v 7 =
        (.ok (⟨7, "refine(16).filter(proto == 17).map(dIP)"⟩, ⟨7, "reduce(sum)"⟩), 8) := by
  intro q v c
  obtain ⟨variants, hrefine, hall⟩ := partitioned_of_refine (fun _ _ => some 1) 3 q 5 7
  have hv : v ∈ variants := by
    cases hrefine
    decide
  exact ⟨⟨variants, hrefine, hv⟩, hall v hv, by decide, by decide +kernel⟩

end Pipeline

end ControlPlane
