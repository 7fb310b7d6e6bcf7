import ControlPlane.Proofs.Pipeline.Batching
import ControlPlane.Proofs.Pipeline.Partition

/-!
# What the reference collaborators make of queries

The reference collaborators put the whole chain of every variant on the data plane, as long as at
least one plan may be proposed: the first plan is the deepest one, and further plans are never
taken. So a pass has a closed form, in which the number of plans does not occur. If no plan may be
proposed, the first query that has a variant at all ends the pass.

## Main definitions

- `LogicalQuery.variantLevels`, `LogicalQuery.chain`: the variants of a query and their chains.
- `Pipeline.wholeOnData`: chains compiled wholly on the data plane, under consecutive ids.
- `Pipeline.ReferenceResult`: the closed form of a pass.

## Main statements

- `Pipeline.compiled_items`: what the items of a pass are compiled to.
- `Pipeline.result_of_reference`: every pass has the closed form.
-/

namespace ControlPlane

namespace LogicalQuery

/-- The levels of the variants of a query in their order: one variant for each level, a single one
without a level if the query has no levels, and none at all if it has no operators. -/
def variantLevels (q : LogicalQuery) : List (Option UInt8) :=
  if q.operators = [] then [] else if q.levels = [] then [none] else q.levels.map some

/-- The whole chain of a variant: the operator that narrows it to its level, if it has one, and all
operators of the query, joined by points. -/
def chain (q : LogicalQuery) (level : Option UInt8) : String :=
  String.intercalate "." ((level.map RefinedQuery.levelOperator).toList ++ q.operators)

/-- The chains of all variants of queries, in order. -/
def chains (queries : List LogicalQuery) : List String :=
  queries.flatMap fun q => q.variantLevels.map q.chain

end LogicalQuery

open LogicalQuery (chains)

namespace Reference

/-! ## Variants and their plans -/

theorem refine_of_nil {q : LogicalQuery} (h : q.operators = []) (i : Nat) : refine q i = [] := by
  rw [refine, if_pos (List.isEmpty_iff.mpr h)]

theorem map_level_refine (q : LogicalQuery) (i : Nat) :
    (refine q i).map (·.level) = q.variantLevels := by
  unfold refine LogicalQuery.variantLevels
  simp only [List.isEmpty_iff]
  split
  · rfl
  · split
    · rfl
    · exact List.ext_getElem (by simp) fun j _ _ => by simp [RefinedQuery.fresh]

/-- A query with operators has a first variant. -/
theorem exists_refine_eq_cons {q : LogicalQuery} (h : q.operators ≠ []) (i : Nat) :
    ∃ v rest, refine q i = v :: rest ∧ v.variant = 0 := by
  unfold refine
  rw [if_neg (by simpa using h)]
  cases hlevels : q.levels with
  | nil => exact ⟨_, _, rfl, rfl⟩
  | cons level rest => exact ⟨_, _, List.mapIdx_cons, rfl⟩

/-- If any plan may be proposed, the first one puts the whole chain on the data plane. -/
theorem propose_eq_cons {most : Nat} (h : 0 < most) (q : RefinedQuery) :
    ∃ rest, propose q most = ⟨q.operators.length⟩ :: rest := by
  obtain ⟨most, rfl⟩ := Nat.exists_eq_succ_of_ne_zero (Nat.ne_of_gt h)
  rw [propose, splits_eq, List.range_succ_eq_map, List.map_cons, List.take_succ_cons,
    List.map_cons]
  exact ⟨_, rfl⟩

end Reference

namespace Pipeline

variable {most : Nat} {id : QueryId}

/-! ## Any plans -/

/-- The halves of chains that are wholly on the data plane, under consecutive ids from `id` on. -/
def wholeOnData (id : QueryId) : List String → List Halves
  | [] => []
  | chain :: rest => (⟨id, chain⟩, ⟨id, "identity"⟩) :: wholeOnData id.next rest

theorem length_wholeOnData (id : QueryId) (chains : List String) :
    (wholeOnData id chains).length = chains.length := by
  induction chains generalizing id with
  | nil => rfl
  | cons chain rest ih => rw [wholeOnData, List.length_cons, List.length_cons, ih]

/-- As long as they fit, the ids are the numbers from the first one on. -/
theorem toNat_ids_wholeOnData (id : QueryId) (chains : List String)
    (room : id.toNat + chains.length ≤ UInt64.size) :
    (wholeOnData id chains).map (·.1.id.toNat) = List.range' id.toNat chains.length := by
  induction chains generalizing id with
  | nil => rfl
  | cons chain rest ih =>
    rw [List.length_cons] at room
    rw [wholeOnData, List.map_cons, List.length_cons, List.range'_succ]
    refine congrArg (id.toNat :: ·) ?_
    cases rest with
    | nil => rfl
    | cons next rest =>
      have hnext : id.next.toNat = id.toNat + 1 := by
        rw [List.length_cons] at room
        rw [QueryId.next, UInt64.toNat_add, UInt64.toNat_one, Nat.mod_eq_of_lt]
        simp only [UInt64.size] at room ⊢
        omega
      rw [ih id.next (by rw [hnext]; omega), hnext]

/-- An item is compiled to a chain that is wholly on the data plane, whatever its id. -/
def Item.CompilesWhole (most : Nat) (item : Item) (chain : String) : Prop :=
  ∀ id, item.Compiles .reference most id (⟨id, chain⟩, ⟨id, "identity"⟩)

theorem Item.compilesWhole_variant (h : 0 < most) {q : LogicalQuery} {i : Nat} {v : RefinedQuery}
    (hv : v ∈ Reference.refine q i) : (Item.variant i v).CompilesWhole most (q.chain v.level) := by
  intro id
  obtain ⟨hoperators, hne⟩ := Reference.operators_of_mem_refine hv
  obtain ⟨rest, hplans⟩ := Reference.propose_eq_cons h v
  let taken : RefinedQuery :=
    { v with plans := Reference.propose v most, chosen := some ⟨v.operators.length⟩ }
  have htaken : taken.chosen = some ⟨v.operators.length⟩ := rfl
  obtain ⟨hdata, hstream⟩ := Reference.compile_of_split_le htaken (Nat.le_refl _) id
  have hchain : Reference.render ((v.level.map RefinedQuery.levelOperator).toList ++
      v.operators.take v.operators.length) = q.chain v.level := by
    rw [List.take_length, hoperators]
    exact Reference.render_of_ne_nil (by simp [hne])
  have hidentity : Reference.render (v.operators.drop v.operators.length) = "identity" := by
    rw [List.drop_length]
    rfl
  rw [← hchain, ← hidentity]
  exact .variant rfl (n := 0) (by rw [hplans]; rfl) (by rw [hplans]; rfl) hdata hstream

/-- The items of queries and the chains of their variants, side by side. -/
theorem items_compileWhole (h : 0 < most) (queries : List LogicalQuery) (i : Nat) :
    List.Forall₂ (Item.CompilesWhole most) (items .reference queries i) (chains queries) := by
  induction queries generalizing i with
  | nil => exact .nil
  | cons q rest ih =>
    have hitems : itemsOf .reference q i = (Reference.refine q i).map (.variant i) := rfl
    have hchains : chains (q :: rest) =
        (Reference.refine q i).map (fun v => q.chain v.level) ++ chains rest := by
      rw [chains, List.flatMap_cons, ← Reference.map_level_refine q i, List.map_map]
      rfl
    rw [items_cons, hitems, hchains]
    refine List.rel_append ?_ (ih (i + 1))
    rw [List.forall₂_map_left_iff, List.forall₂_map_right_iff, List.forall₂_same]
    exact fun v hv => Item.compilesWhole_variant h hv

theorem compiled_wholeOnData {xs : List Item} {chains : List String}
    (h : List.Forall₂ (Item.CompilesWhole most) xs chains) (id : QueryId) :
    Compiled .reference most id xs (wholeOnData id chains) := by
  induction h generalizing id with
  | nil => exact .nil id
  | cons hitem _ ih => exact .cons (hitem id) (ih id.next)

/-- What the items of a pass are compiled to, if any plan may be proposed. -/
theorem compiled_items (h : 0 < most) (id : QueryId) (queries : List LogicalQuery) (i : Nat) :
    Compiled .reference most id (items .reference queries i) (wholeOnData id (chains queries)) :=
  compiled_wholeOnData (items_compileWhole h queries i) id

/-! ## No plans -/

theorem items_of_idle {queries : List LogicalQuery} (h : ∀ q ∈ queries, q.operators = [])
    (i : Nat) : items .reference queries i = [] := by
  rw [items, List.flatMap_eq_nil_iff]
  rintro ⟨q, j⟩ hq
  have hnone : Reference.refine q j = [] :=
    Reference.refine_of_nil (h q (List.fst_mem_of_mem_zipIdx hq)) j
  simp [itemsOf, Collaborators.reference, hnone]

/-- Queries without operators, if all are, or those in front of the first one that has some. -/
theorem idle_or_first (queries : List LogicalQuery) :
    (∀ q ∈ queries, q.operators = []) ∨ ∃ before q after, queries = before ++ q :: after ∧
      (∀ r ∈ before, r.operators = []) ∧ q.operators ≠ [] := by
  induction queries with
  | nil => exact .inl (List.forall_mem_nil _)
  | cons q rest ih =>
    by_cases hq : q.operators = []
    · rcases ih with hidle | ⟨before, r, after, rfl, hbefore, hr⟩
      · exact .inl (List.forall_mem_cons.2 ⟨hq, hidle⟩)
      · exact .inr ⟨q :: before, r, after, rfl, List.forall_mem_cons.2 ⟨hq, hbefore⟩, hr⟩
    · exact .inr ⟨[], q, rest, rfl, List.forall_mem_nil _, hq⟩

/-! ## The closed form -/

/-- What a pass over `queries` that begins with `p` comes to with the reference collaborators. -/
structure ReferenceResult (p : Pipeline) (queries : List LogicalQuery) : Prop where
  /-- If any plan may be proposed, the chains of all variants are compiled, wholly on the data
  plane and under consecutive ids. How many plans may be proposed makes no difference. -/
  completes : ∀ {most}, 0 < most →
    let halves := wholeOnData p.nextId (chains queries)
    p.run .reference most queries = (.ok ⟨halves.map (·.1), halves.map (·.2)⟩,
      { p with
        nextId := idAfter p.nextId (chains queries).length
        data := p.data ++ halves.map (·.1)
        stream := p.stream ++ halves.map (·.2)
        passes := p.passes + 1 })
  /-- As long as they fit, the ids are the numbers from the next id on. -/
  numbered : p.nextId.toNat + (chains queries).length ≤ UInt64.size →
    (wholeOnData p.nextId (chains queries)).map (·.1.id.toNat) =
      List.range' p.nextId.toNat (chains queries).length
  /-- If no plan may be proposed, the first query with operators ends the pass at its first
  variant. Nothing is kept, and no id is used up. -/
  refused : ∀ {before q after}, queries = before ++ q :: after →
    (∀ r ∈ before, r.operators = []) → q.operators ≠ [] →
    p.run .reference 0 queries =
      (.error (.noPartitionPlan before.length 0), { p with passes := p.passes + 1 })
  /-- If no plan may be proposed, a pass fails just if there is such a query. -/
  fails_iff : (∃ e, (p.run .reference 0 queries).1 = .error e) ↔ ∃ q ∈ queries, q.operators ≠ []

/-- If no plan may be proposed, the first variant that a pass gets to ends it. -/
theorem run_reference_of_first (p : Pipeline) {before after : List LogicalQuery} {q : LogicalQuery}
    (hbefore : ∀ r ∈ before, r.operators = []) (hq : q.operators ≠ []) :
    p.run .reference 0 (before ++ q :: after) =
      (.error (.noPartitionPlan before.length 0), { p with passes := p.passes + 1 }) := by
  obtain ⟨v, rest, hrefine, hvariant⟩ := Reference.exists_refine_eq_cons hq before.length
  have hfirst : itemsOf .reference q before.length =
      .variant before.length v :: rest.map (.variant before.length) := by
    simp only [itemsOf, Collaborators.reference, hrefine, List.map_cons]
  have hfails : (Item.variant before.length v).Fails .reference 0 p.nextId
      (.noPartitionPlan before.length v.variant) := .unselected rfl rfl
  rw [run, runQueries_eq_runItems, items_append, items_of_idle hbefore, List.nil_append,
    Nat.zero_add, items_cons, hfirst, List.cons_append, runItems, Item.attempt_of_fails hfails,
    hvariant]
  rfl

/-- If no plan may be proposed, a pass over queries without operators does nothing. -/
theorem run_reference_of_idle (p : Pipeline) {queries : List LogicalQuery}
    (h : ∀ q ∈ queries, q.operators = []) :
    p.run .reference 0 queries = (.ok .empty, { p with passes := p.passes + 1 }) := by
  rw [run, runQueries_eq_runItems, items_of_idle h]
  rfl

/-- Every pass of the reference collaborators has the closed form. -/
theorem result_of_reference (p : Pipeline) (queries : List LogicalQuery) :
    ReferenceResult p queries where
  completes h := by
    have hrun := runItems_of_compiled (p := { p with passes := p.passes + 1 })
      (compiled_items h p.nextId queries 0) rfl [] .empty
    rw [List.append_nil] at hrun
    rw [run, runQueries_eq_runItems, hrun, length_wholeOnData]
    rfl
  numbered := toNat_ids_wholeOnData p.nextId (chains queries)
  refused {before q after} hqueries hbefore hq := by
    subst hqueries
    exact run_reference_of_first p hbefore hq
  fails_iff := by
    rcases idle_or_first queries with hidle | ⟨before, q, after, rfl, hbefore, hq⟩
    · rw [run_reference_of_idle p hidle]
      constructor
      · rintro ⟨e, he⟩
        cases he
      · rintro ⟨q, hq, hne⟩
        exact absurd (hidle q hq) hne
    · rw [run_reference_of_first p hbefore hq]
      exact ⟨fun _ => ⟨q, List.mem_append_right _ List.mem_cons_self, hq⟩, fun _ => ⟨_, rfl⟩⟩

/-- A query without operators is passed over, and a query with two levels gets two ids. -/
example :
    let queries : List LogicalQuery :=
      [⟨"idle", [], [8]⟩, ⟨"ddos", ["filter(proto == 17)", "map(dIP)"], [8, 16]⟩]
    fresh.run .reference 1 queries = fresh.run .reference 4 queries ∧
      (fresh.run .reference 1 queries).2.data =
        [⟨1, "refine(8).filter(proto == 17).map(dIP)"⟩,
          ⟨2, "refine(16).filter(proto == 17).map(dIP)"⟩] ∧
      (fresh.run .reference 0 queries).1 = .error (.noPartitionPlan 1 0) := by
  decide +kernel

end Pipeline

end ControlPlane
