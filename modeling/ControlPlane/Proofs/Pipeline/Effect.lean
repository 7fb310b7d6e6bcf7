import ControlPlane.Proofs.Pipeline.Numbering

/-!
# The effect of a pass

A pass works through one row of items: the variants of its queries, in the order of the queries and
as each query was refined, and a query that is not refined in the place of its variants. The items
in front of the first one that fails are compiled under consecutive ids and kept. The failure tells
where it happened, and uses up an id just if a compiler had been asked already.

## Main definitions

- `Pipeline.Item`, `Pipeline.items`: what a pass works through.
- `Pipeline.Item.Compiles`, `Pipeline.Item.Fails`: what becomes of an item under an id.
- `Pipeline.Compiled`: items that are compiled under consecutive ids.
- `Pipeline.Effect`: the effect of a pass.

## Main statements

- `Pipeline.runQueries_eq_runItems`: a pass is one loop over its items.
- `Pipeline.Item.compiles_or_fails`: an item is compiled or fails.
- `Pipeline.effect_of_run`: the effect of every pass.
-/

namespace ControlPlane.Pipeline

/-- The two compiled halves of a variant, for the data plane and for the stream plane. -/
abbrev Halves := CompiledQuery × CompiledQuery

/-- What a pass works through. -/
inductive Item
  /-- A logical query that is not refined. -/
  | refused (logicalIndex : Nat) (reason : String)
  | variant (logicalIndex : Nat) (q : RefinedQuery)

section Items

variable (c : Collaborators) (most : Nat)

/-- What a logical query comes to. -/
def itemsOf (q : LogicalQuery) (logicalIndex : Nat) : List Item :=
  match c.refine q logicalIndex with
  | .error reason => [.refused logicalIndex reason]
  | .ok variants => variants.map (.variant logicalIndex)

/-- What logical queries from the position `logicalIndex` on come to, in order. -/
def items (queries : List LogicalQuery) (logicalIndex : Nat) : List Item :=
  (queries.zipIdx logicalIndex).flatMap fun (q, i) => itemsOf c q i

/-- A variant is compiled under an id: plans are proposed, one of them is selected, and both halves
are compiled for it. -/
inductive Item.Compiles (id : QueryId) : Item → Halves → Prop
  | variant {i n : Nat} {q : RefinedQuery} {plans : List PartitionPlan} {plan : PartitionPlan}
      {data stream : CompiledQuery}
      (proposed : c.propose q most = .ok plans) (selected : c.select q plans = some n)
      (found : plans[n]? = some plan)
      (data_eq : c.compileData { q with plans, chosen := some plan } id = .ok data)
      (stream_eq : c.compileStream { q with plans, chosen := some plan } id = .ok stream) :
      Compiles id (.variant i q) (data, stream)

/-- An item fails, and this is the error that tells so. -/
inductive Item.Fails (id : QueryId) : Item → PipelineError → Prop
  | refused {i : Nat} {reason : String} : Fails id (.refused i reason) (.refine i reason)
  | unproposed {i : Nat} {q : RefinedQuery} {reason : String}
      (proposed : c.propose q most = .error reason) :
      Fails id (.variant i q) (.partition i q.variant reason)
  /-- None of the plans is selected. -/
  | unselected {i : Nat} {q : RefinedQuery} {plans : List PartitionPlan}
      (proposed : c.propose q most = .ok plans) (selected : c.select q plans = none) :
      Fails id (.variant i q) (.noPartitionPlan i q.variant)
  /-- A plan is selected that was not proposed. -/
  | outside {i n : Nat} {q : RefinedQuery} {plans : List PartitionPlan}
      (proposed : c.propose q most = .ok plans) (selected : c.select q plans = some n)
      (beyond : plans.length ≤ n) : Fails id (.variant i q) (.noPartitionPlan i q.variant)
  | data {i n : Nat} {q : RefinedQuery} {plans : List PartitionPlan} {plan : PartitionPlan}
      {reason : String}
      (proposed : c.propose q most = .ok plans) (selected : c.select q plans = some n)
      (found : plans[n]? = some plan)
      (data_eq : c.compileData { q with plans, chosen := some plan } id = .error reason) :
      Fails id (.variant i q) (.compile i q.variant id .data reason)
  | stream {i n : Nat} {q : RefinedQuery} {plans : List PartitionPlan} {plan : PartitionPlan}
      {data : CompiledQuery} {reason : String}
      (proposed : c.propose q most = .ok plans) (selected : c.select q plans = some n)
      (found : plans[n]? = some plan)
      (data_eq : c.compileData { q with plans, chosen := some plan } id = .ok data)
      (stream_eq : c.compileStream { q with plans, chosen := some plan } id = .error reason) :
      Fails id (.variant i q) (.compile i q.variant id .stream reason)

/-- What becomes of an item, and the next id. -/
def Item.attempt (id : QueryId) : Item → Except PipelineError Halves × QueryId
  | .refused i reason => (.error (.refine i reason), id)
  | .variant i q => compileVariant c most i q id

/-- The items in order, up to the first that fails. -/
def runItems : List Item → Pass → Pipeline → Except PipelineError Pass × Pipeline
  | [], pass, p => (.ok pass, p)
  | item :: rest, pass, p =>
    match item.attempt c most p.nextId with
    | (.error e, next) => (.error e, { p with nextId := next })
    | (.ok (data, stream), next) =>
      runItems rest (pass.push data stream) ({ p with nextId := next }.commit data stream)

end Items

variable {c : Collaborators} {most : Nat} {id : QueryId} {item : Item} {xs ys : List Item}
  {halves : List Halves} {pair : Halves} {e : PipelineError}

/-! ## One loop -/

theorem items_cons (q : LogicalQuery) (rest : List LogicalQuery) (i : Nat) :
    items c (q :: rest) i = itemsOf c q i ++ items c rest (i + 1) := by
  simp [items, List.zipIdx_cons]

theorem runItems_append (pass : Pass) (p : Pipeline) :
    runItems c most (xs ++ ys) pass p =
      match runItems c most xs pass p with
      | (.error e, p) => (.error e, p)
      | (.ok pass, p) => runItems c most ys pass p := by
  induction xs generalizing pass p with
  | nil => rfl
  | cons item rest ih =>
    rw [List.cons_append, runItems, runItems]
    rcases item.attempt c most p.nextId with ⟨outcome, next⟩
    cases outcome with
    | error e => rfl
    | ok halves => exact ih _ _

theorem runVariants_eq_runItems (i : Nat) (variants : List RefinedQuery) (pass : Pass)
    (p : Pipeline) :
    runVariants c most i variants pass p =
      runItems c most (variants.map (.variant i)) pass p := by
  induction variants generalizing pass p with
  | nil => rfl
  | cons q rest ih =>
    rw [List.map_cons, runVariants, runItems, Item.attempt]
    rcases compileVariant c most i q p.nextId with ⟨outcome, next⟩
    cases outcome with
    | error e => rfl
    | ok halves => exact ih _ _

/-- A pass is one loop over its items. -/
theorem runQueries_eq_runItems (queries : List LogicalQuery) (i : Nat) (pass : Pass)
    (p : Pipeline) :
    runQueries c most queries i pass p = runItems c most (items c queries i) pass p := by
  induction queries generalizing i pass p with
  | nil => rfl
  | cons q rest ih =>
    rw [items_cons, runItems_append, itemsOf, runQueries]
    cases hrefine : c.refine q i with
    | error reason => rfl
    | ok variants =>
      dsimp only
      rw [runVariants_eq_runItems]
      rcases runItems c most (variants.map (.variant i)) pass p with ⟨outcome, p⟩
      cases outcome with
      | error e => rfl
      | ok pass => exact ih _ _ _

/-! ## One item -/

theorem Item.attempt_of_compiles (h : item.Compiles c most id pair) :
    item.attempt c most id = (.ok pair, id.next) := by
  cases h with
  | variant proposed selected found data_eq stream_eq =>
    simp only [attempt, compileVariant, choosePlan, proposed, selected, Option.bind_some, found,
      compileHalves, data_eq, stream_eq]

/-- A failure uses up an id just if it is that of a compiler. -/
theorem Item.attempt_of_fails (h : item.Fails c most id e) :
    item.attempt c most id = (.error e, if e.stage = .compile then id.next else id) := by
  cases h with
  | refused => rfl
  | unproposed proposed =>
    simp only [attempt, compileVariant, choosePlan, proposed]
    rfl
  | unselected proposed selected =>
    simp only [attempt, compileVariant, choosePlan, proposed, selected, Option.bind_none]
    rfl
  | outside proposed selected beyond =>
    simp only [attempt, compileVariant, choosePlan, proposed, selected, Option.bind_some,
      List.getElem?_eq_none beyond]
    rfl
  | data proposed selected found data_eq =>
    simp only [attempt, compileVariant, choosePlan, proposed, selected, Option.bind_some, found,
      compileHalves, data_eq]
    rfl
  | stream proposed selected found data_eq stream_eq =>
    simp only [attempt, compileVariant, choosePlan, proposed, selected, Option.bind_some, found,
      compileHalves, data_eq, stream_eq]
    rfl

/-- An item is compiled or fails. -/
theorem Item.compiles_or_fails (c : Collaborators) (most : Nat) (id : QueryId) (item : Item) :
    (∃ pair, item.Compiles c most id pair) ∨ ∃ e, item.Fails c most id e := by
  cases item with
  | refused i reason => exact .inr ⟨_, .refused⟩
  | variant i q =>
    cases proposed : c.propose q most with
    | error reason => exact .inr ⟨_, .unproposed proposed⟩
    | ok plans =>
      cases selected : c.select q plans with
      | none => exact .inr ⟨_, .unselected proposed selected⟩
      | some n =>
        cases found : plans[n]? with
        | none => exact .inr ⟨_, .outside proposed selected (List.getElem?_eq_none_iff.1 found)⟩
        | some plan =>
          cases data_eq : c.compileData { q with plans, chosen := some plan } id with
          | error reason => exact .inr ⟨_, .data proposed selected found data_eq⟩
          | ok data =>
            cases stream_eq : c.compileStream { q with plans, chosen := some plan } id with
            | error reason => exact .inr ⟨_, .stream proposed selected found data_eq stream_eq⟩
            | ok stream => exact .inl ⟨_, .variant proposed selected found data_eq stream_eq⟩

/-- Both halves carry the id they were compiled under. -/
theorem Item.id_of_compiles (tags : c.Tags) (h : item.Compiles c most id pair) :
    pair.1.id = id ∧ pair.2.id = id := by
  cases h with
  | variant _ _ _ data_eq stream_eq => exact ⟨tags.data data_eq, tags.stream stream_eq⟩

/-! ## Items that are compiled -/

/-- The id that follows `id` after so many others. -/
def idAfter (id : QueryId) (n : Nat) : QueryId := id + UInt64.ofNat n

@[simp] theorem idAfter_zero (id : QueryId) : idAfter id 0 = id := UInt64.add_zero id

theorem idAfter_next (id : QueryId) (n : Nat) : idAfter id.next n = idAfter id (n + 1) := by
  rw [idAfter, idAfter, QueryId.next, UInt64.ofNat_add, UInt64.add_assoc,
    UInt64.add_comm 1]
  rfl

theorem next_idAfter (id : QueryId) (n : Nat) : (idAfter id n).next = idAfter id (n + 1) := by
  rw [idAfter, idAfter, QueryId.next, UInt64.ofNat_add, UInt64.add_assoc]
  rfl

/-- So many ids in a row, from `id` on. -/
def idsFrom (id : QueryId) (n : Nat) : List QueryId := (List.range n).map (idAfter id)

theorem idsFrom_succ (id : QueryId) (n : Nat) : idsFrom id (n + 1) = id :: idsFrom id.next n := by
  simp [idsFrom, List.range_succ_eq_map, Function.comp_def, idAfter_next]

/-- Items that are all compiled, under consecutive ids from the given one on. -/
inductive Compiled (c : Collaborators) (most : Nat) : QueryId → List Item → List Halves → Prop
  | nil (id : QueryId) : Compiled c most id [] []
  | cons {id : QueryId} {item : Item} {pair : Halves} {rest : List Item} {halves : List Halves} :
      item.Compiles c most id pair → Compiled c most id.next rest halves →
      Compiled c most id (item :: rest) (pair :: halves)

namespace Compiled

theorem length_eq (h : Compiled c most id xs halves) : halves.length = xs.length := by
  induction h with
  | nil => rfl
  | cons _ _ ih => rw [List.length_cons, List.length_cons, ih]

theorem ids_eq (tags : c.Tags) (h : Compiled c most id xs halves) :
    ids (halves.map (·.1)) = idsFrom id halves.length ∧
      ids (halves.map (·.2)) = idsFrom id halves.length := by
  induction h with
  | nil => exact ⟨rfl, rfl⟩
  | cons hitem _ ih =>
    obtain ⟨hdata, hstream⟩ := Item.id_of_compiles tags hitem
    -- The first id is read off the half that each list begins with.
    rw [List.length_cons, idsFrom_succ, ← hdata]
    refine ⟨congrArg _ (hdata ▸ ih.1), ?_⟩
    rw [hdata, ← hstream]
    exact congrArg _ (hstream ▸ ih.2)

end Compiled

/-- Items are all compiled, or some are and the next one fails. -/
theorem compiled_or_fails (c : Collaborators) (most : Nat) (id : QueryId) (xs : List Item) :
    (∃ halves, Compiled c most id xs halves) ∨
      ∃ before item after halves e, xs = before ++ item :: after ∧
        Compiled c most id before halves ∧ item.Fails c most (idAfter id halves.length) e := by
  -- The rest is numbered from the next id on, so the induction is for all ids.
  induction xs generalizing id with
  | nil => exact .inl ⟨[], .nil id⟩
  | cons item rest ih =>
    rcases item.compiles_or_fails c most id with ⟨pair, hitem⟩ | ⟨e, hitem⟩
    · rcases ih id.next with
        ⟨halves, hrest⟩ | ⟨before, next, after, halves, e, hrest, hbefore, hnext⟩
      · exact .inl ⟨pair :: halves, .cons hitem hrest⟩
      · refine .inr ⟨item :: before, next, after, pair :: halves, e, ?_, .cons hitem hbefore, ?_⟩
        · rw [hrest, List.cons_append]
        · rwa [List.length_cons, ← idAfter_next]
    · exact .inr ⟨[], item, rest, [], e, rfl, .nil id, by simpa using hitem⟩

/-- A pipeline that has handed out so many more ids and kept more halves. -/
def extend (p : Pipeline) (halves : List Halves) (given : Nat) : Pipeline :=
  { p with
    nextId := idAfter p.nextId given
    data := p.data ++ halves.map (·.1)
    stream := p.stream ++ halves.map (·.2) }

/-- A pass gets past items that are compiled, and keeps them. -/
theorem runItems_of_compiled {p : Pipeline} (h : Compiled c most id xs halves)
    (hid : p.nextId = id) (ys : List Item) (pass : Pass) :
    runItems c most (xs ++ ys) pass p =
      runItems c most ys ⟨pass.data ++ halves.map (·.1), pass.stream ++ halves.map (·.2)⟩
        (p.extend halves halves.length) := by
  induction h generalizing p pass with
  | nil => simp [extend]
  | @cons id item pair rest halves hitem _ ih =>
    subst hid
    rw [List.cons_append, runItems, Item.attempt_of_compiles hitem]
    dsimp only
    rw [ih rfl]
    simp [extend, Pass.push, Pipeline.commit, idAfter_next]

/-- The effect of a pass over `queries` that begins with `p`. -/
structure Effect (c : Collaborators) (most : Nat) (p : Pipeline) (queries : List LogicalQuery) :
    Prop where
  /-- If nothing fails, just what is reported is kept. -/
  completes : ∀ {halves}, Compiled c most p.nextId (items c queries 0) halves →
    p.run c most queries = (.ok ⟨halves.map (·.1), halves.map (·.2)⟩,
      { p.extend halves halves.length with passes := p.passes + 1 })
  /-- The first failure is reported, and just what was compiled before it is kept. -/
  stops : ∀ {before item after halves e}, items c queries 0 = before ++ item :: after →
    Compiled c most p.nextId before halves →
    item.Fails c most (idAfter p.nextId halves.length) e →
    p.run c most queries = (.error e,
      { p.extend halves (halves.length + if e.stage = .compile then 1 else 0) with
        passes := p.passes + 1 })
  /-- One of the two is the case. -/
  decided : (∃ halves, Compiled c most p.nextId (items c queries 0) halves) ∨
    ∃ before item after halves e, items c queries 0 = before ++ item :: after ∧
      Compiled c most p.nextId before halves ∧
      item.Fails c most (idAfter p.nextId halves.length) e
  /-- What is compiled has one pair of halves for each item, under consecutive ids. -/
  numbered : ∀ {before after halves}, items c queries 0 = before ++ after →
    Compiled c most p.nextId before halves → halves.length = before.length ∧
      ids (halves.map (·.1)) = idsFrom p.nextId halves.length ∧
      ids (halves.map (·.2)) = idsFrom p.nextId halves.length

/-- The effect of every pass, with any collaborators that compile under the ids they are handed. -/
theorem effect_of_run (tags : c.Tags) (most : Nat) (p : Pipeline) (queries : List LogicalQuery) :
    Effect c most p queries where
  completes {halves} h := by
    have hrun := runItems_of_compiled (p := { p with passes := p.passes + 1 }) h rfl [] .empty
    rw [List.append_nil] at hrun
    rw [run, runQueries_eq_runItems, hrun]
    rfl
  stops {before item after halves e} hitems hbefore hitem := by
    -- The pass gets to the item that fails, with an id used up for each one in front of it.
    have hrun := runItems_of_compiled (p := { p with passes := p.passes + 1 }) hbefore rfl
      (item :: after) .empty
    have hattempt : item.attempt c most
        (({ p with passes := p.passes + 1 } : Pipeline).extend halves halves.length).nextId =
        (.error e, if e.stage = .compile then (idAfter p.nextId halves.length).next
          else idAfter p.nextId halves.length) := Item.attempt_of_fails hitem
    rw [run, runQueries_eq_runItems, hitems, hrun, runItems, hattempt]
    by_cases hstage : e.stage = .compile
    · simp only [hstage, if_true, next_idAfter, extend]
    · simp only [hstage, if_false, Nat.add_zero, extend]
  decided := compiled_or_fails c most p.nextId (items c queries 0)
  numbered _ h := ⟨h.length_eq, h.ids_eq tags⟩

/-- Reference collaborators but for the stream half under the id 2. -/
def halfRefused : Collaborators := .scripted { refusedStream := [2] }

/-- A query with two levels, the second of which is refused its stream half. -/
def twoLevels : List LogicalQuery := [⟨"ddos", ["map(dIP)"], [8, 16]⟩]

/-- The refused variant is named with its id and its plane, nothing of it is kept, and its id is
used up. -/
theorem effect_of_refused_half :
    halfRefused.Tags ∧ Effect halfRefused 4 fresh twoLevels ∧
      (fresh.run halfRefused 4 twoLevels).1 =
        .error (.compile 0 1 2 .stream "unsupported operator") ∧
      (fresh.run halfRefused 4 twoLevels).2 =
        ⟨3, [⟨1, "refine(8).map(dIP)"⟩], [⟨1, "identity"⟩], 1⟩ := by
  have htags : halfRefused.Tags := Collaborators.scripted_tags _
  exact ⟨htags, effect_of_run htags 4 fresh twoLevels, by decide, by decide⟩

end ControlPlane.Pipeline
