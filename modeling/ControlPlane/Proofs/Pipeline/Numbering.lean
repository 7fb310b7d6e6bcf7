import ControlPlane.Pipeline.Run
import Mathlib.Data.List.Basic

/-!
# The numbering of compiled queries

Ids are handed out one after another, whether or not the variant that gets one is compiled in the
end. What is kept on the two planes always matches, and carries ids that were handed out in that
order.

## Main definitions

- `Collaborators.Tags`: a compiled half carries the id it was compiled under.
- `Pipeline.assigned`: the ids that a pass hands out.
- `Pipeline.Numbered`: how a pipeline stands to the ids handed out since its last reset.
- `Pipeline.Ledger`: a pipeline with the ids handed out since its last reset.

## Main statements

- `Pipeline.Numbered.run`: a pass keeps the numbering, whatever its outcome.
- `Pipeline.Ledger.consistent_after`: what holds after any calls of any collaborators.
-/

namespace ControlPlane

/-- Every half that is compiled carries the id it was compiled under. -/
structure Collaborators.Tags (c : Collaborators) : Prop where
  data : ∀ {q : RefinedQuery} {id : QueryId} {half : CompiledQuery},
    c.compileData q id = .ok half → half.id = id
  stream : ∀ {q : RefinedQuery} {id : QueryId} {half : CompiledQuery},
    c.compileStream q id = .ok half → half.id = id

namespace Collaborators

theorem id_of_referenceData {q : RefinedQuery} {id : QueryId} {half : CompiledQuery}
    (h : Reference.compileData q id = .ok half) : half.id = id := by
  unfold Reference.compileData at h
  split at h <;> cases h
  rfl

theorem id_of_referenceStream {q : RefinedQuery} {id : QueryId} {half : CompiledQuery}
    (h : Reference.compileStream q id = .ok half) : half.id = id := by
  unfold Reference.compileStream at h
  split at h <;> cases h
  rfl

/-- The reference collaborators compile under the id that they are handed. -/
theorem reference_tags : reference.Tags := ⟨id_of_referenceData, id_of_referenceStream⟩

/-- Whatever a script refuses, what is still compiled carries its id. -/
theorem scripted_tags (s : Script) : (scripted s).Tags where
  data h := by
    simp only [scripted] at h
    split at h
    · cases h
    · exact id_of_referenceData h
  stream h := by
    simp only [scripted] at h
    split at h
    · cases h
    · exact id_of_referenceStream h

end Collaborators

namespace Pipeline

section Assigned

variable (c : Collaborators) (most : Nat)

/-- The ids that the variants of one logical query get, if the first of them gets `id`. A variant
gets one as soon as there is a plan for it; the first that fails ends the pass. -/
def assignedVariants (logicalIndex : Nat) : List RefinedQuery → (id : QueryId) → List QueryId
  | [], _ => []
  | q :: rest, id =>
    match choosePlan c most logicalIndex q with
    | .error _ => []
    | .ok q =>
      match compileHalves c logicalIndex q id with
      | .error _ => [id]
      | .ok _ => id :: assignedVariants logicalIndex rest id.next

/-- The ids that the variants of logical queries get, from the position `logicalIndex` on. -/
def assignedQueries :
    List LogicalQuery → (logicalIndex : Nat) → Pass → Pipeline → List QueryId
  | [], _, _, _ => []
  | q :: rest, i, pass, p =>
    match c.refine q i with
    | .error _ => []
    | .ok variants =>
      assignedVariants c most i variants p.nextId ++
        match runVariants c most i variants pass p with
        | (.error _, _) => []
        | (.ok pass, p) => assignedQueries rest (i + 1) pass p

/-- The ids that a pass hands out, those of variants that are not compiled included. -/
def assigned (p : Pipeline) (queries : List LogicalQuery) : List QueryId :=
  assignedQueries c most queries 0 .empty { p with passes := p.passes + 1 }

end Assigned

@[simp] theorem nextId_commit (p : Pipeline) (data stream : CompiledQuery) :
    (p.commit data stream).nextId = p.nextId := rfl

/-- The ids of compiled halves, in order. -/
def ids (halves : List CompiledQuery) : List QueryId := halves.map (·.id)

@[simp] theorem ids_append (xs ys : List CompiledQuery) : ids (xs ++ ys) = ids xs ++ ids ys :=
  List.map_append ..

@[simp] theorem ids_singleton (q : CompiledQuery) : ids [q] = [q.id] := rfl

@[simp] theorem length_ids (halves : List CompiledQuery) : (ids halves).length = halves.length :=
  List.length_map ..

/-- How a pipeline stands to the ids that have been handed out since its last reset. -/
structure Numbered (given : List QueryId) (p : Pipeline) : Prop where
  /-- Ids are handed out one after another, from the first on. -/
  consecutive : given = (List.range given.length).map fun n => UInt64.ofNat (n + 1)
  next : p.nextId = UInt64.ofNat (given.length + 1)
  /-- The planes carry the same ids in the same order. -/
  matched : ids p.data = ids p.stream
  /-- What is kept carries ids that were handed out, in that order. -/
  kept : (ids p.data).Sublist given

namespace Numbered

variable {given : List QueryId} {p : Pipeline}

theorem fresh : Numbered [] Pipeline.fresh := ⟨rfl, rfl, rfl, .slnil⟩

/-- The next id continues the row of ids. -/
theorem consecutive_append (h : Numbered given p) :
    given ++ [p.nextId] =
      (List.range (given ++ [p.nextId]).length).map fun n => UInt64.ofNat (n + 1) := by
  rw [List.length_append, List.length_singleton, List.range_succ, List.map_append,
    ← h.consecutive, h.next]
  rfl

/-- The id after the next one is the one that follows the longer row. -/
theorem next_append (h : Numbered given p) :
    p.nextId.next = UInt64.ofNat ((given ++ [p.nextId]).length + 1) := by
  rw [QueryId.next, h.next, List.length_append, List.length_singleton]
  exact (UInt64.ofNat_add _ 1).symm

/-- An id is handed out, and nothing comes of it. -/
theorem skip (h : Numbered given p) :
    Numbered (given ++ [p.nextId]) { p with nextId := p.nextId.next } where
  consecutive := h.consecutive_append
  next := h.next_append
  matched := h.matched
  kept := h.kept.trans (List.sublist_append_left ..)

/-- An id is handed out, and both halves of the variant are kept. -/
theorem keep {data stream : CompiledQuery} (h : Numbered given p) (hdata : data.id = p.nextId)
    (hstream : stream.id = p.nextId) :
    Numbered (given ++ [p.nextId]) ({ p with nextId := p.nextId.next }.commit data stream) where
  consecutive := h.consecutive_append
  next := h.next_append
  matched := by simp only [commit, ids_append, ids_singleton, h.matched, hdata, hstream]
  kept := by
    simp only [commit, ids_append, ids_singleton, hdata]
    exact h.kept.append (List.Sublist.refl _)

/-- The number of passes has nothing to do with ids. -/
theorem withPasses (h : Numbered given p) (n : UInt64) : Numbered given { p with passes := n } :=
  ⟨h.consecutive, h.next, h.matched, h.kept⟩

end Numbered

section Pass

variable {c : Collaborators} (most : Nat)

/-- Both halves of a variant carry the id it was given. -/
theorem id_of_compileHalves (tags : c.Tags) {logicalIndex : Nat} {q : RefinedQuery} {id : QueryId}
    {data stream : CompiledQuery}
    (h : compileHalves c logicalIndex q id = .ok (data, stream)) :
    data.id = id ∧ stream.id = id := by
  unfold compileHalves at h
  split at h
  · cases h
  · next hdata =>
    split at h
    · cases h
    · next hstream =>
      cases h
      exact ⟨tags.data hdata, tags.stream hstream⟩

/-- The variants of one logical query keep the numbering, up to the first that fails. -/
theorem Numbered.runVariants (tags : c.Tags) (logicalIndex : Nat) (variants : List RefinedQuery)
    (pass : Pass) {given : List QueryId} {p : Pipeline} (h : Numbered given p) :
    Numbered (given ++ assignedVariants c most logicalIndex variants p.nextId)
      (runVariants c most logicalIndex variants pass p).2 := by
  -- The row of ids grows with each variant, so it varies with the pipeline.
  induction variants generalizing given pass p with
  | nil => simpa only [Pipeline.runVariants, assignedVariants, List.append_nil] using h
  | cons q rest ih =>
    cases hplan : choosePlan c most logicalIndex q with
    | error e =>
      simpa only [Pipeline.runVariants, compileVariant, assignedVariants, hplan, List.append_nil]
        using h
    | ok planned =>
      cases hhalves : compileHalves c logicalIndex planned p.nextId with
      | error e =>
        simpa only [Pipeline.runVariants, compileVariant, assignedVariants, hplan, hhalves]
          using h.skip
      | ok halves =>
        obtain ⟨hdata, hstream⟩ := id_of_compileHalves tags hhalves
        have hrest := ih (pass.push halves.1 halves.2) (h.keep hdata hstream)
        simpa only [Pipeline.runVariants, compileVariant, assignedVariants, hplan, hhalves,
          List.append_assoc, List.singleton_append, nextId_commit] using hrest

/-- Logical queries keep the numbering, up to the first that fails. -/
theorem Numbered.runQueries (tags : c.Tags) (queries : List LogicalQuery) (logicalIndex : Nat)
    (pass : Pass) {given : List QueryId} {p : Pipeline} (h : Numbered given p) :
    Numbered (given ++ assignedQueries c most queries logicalIndex pass p)
      (runQueries c most queries logicalIndex pass p).2 := by
  induction queries generalizing given logicalIndex pass p with
  | nil => simpa only [Pipeline.runQueries, assignedQueries, List.append_nil] using h
  | cons q rest ih =>
    cases hrefine : c.refine q logicalIndex with
    | error reason =>
      simpa only [Pipeline.runQueries, assignedQueries, hrefine, List.append_nil] using h
    | ok variants =>
      have hvariants := h.runVariants most tags logicalIndex variants pass
      rcases hrun : Pipeline.runVariants c most logicalIndex variants pass p with ⟨outcome, p'⟩
      rw [hrun] at hvariants
      cases outcome with
      | error e =>
        simpa only [Pipeline.runQueries, assignedQueries, hrefine, hrun, List.append_nil]
          using hvariants
      | ok pass' =>
        simpa only [Pipeline.runQueries, assignedQueries, hrefine, hrun, List.append_assoc]
          using ih (logicalIndex + 1) pass' hvariants

/-- No id is named when there is no plan for a variant. -/
theorem queryId_of_choosePlan {logicalIndex : Nat} {q : RefinedQuery} {e : PipelineError}
    (h : choosePlan c most logicalIndex q = .error e) : e.queryId = none := by
  unfold choosePlan at h
  split at h
  · cases h
    rfl
  · split at h
    · cases h
      rfl
    · cases h

/-- A variant that is not compiled is named by the id it was given. -/
theorem queryId_of_compileHalves {logicalIndex : Nat} {q : RefinedQuery} {id : QueryId}
    {e : PipelineError} (h : compileHalves c logicalIndex q id = .error e) :
    e.queryId = some id := by
  unfold compileHalves at h
  split at h
  · cases h
    rfl
  · split at h
    · cases h
      rfl
    · cases h

theorem queryId_mem_assignedVariants (logicalIndex : Nat) (variants : List RefinedQuery)
    (pass : Pass) (p : Pipeline) {e : PipelineError} {id : QueryId}
    (h : (runVariants c most logicalIndex variants pass p).1 = .error e)
    (hid : e.queryId = some id) :
    id ∈ assignedVariants c most logicalIndex variants p.nextId := by
  induction variants generalizing pass p with
  | nil => cases h
  | cons q rest ih =>
    cases hplan : choosePlan c most logicalIndex q with
    | error e' =>
      simp only [runVariants, compileVariant, hplan] at h
      cases h
      rw [queryId_of_choosePlan most hplan] at hid
      cases hid
    | ok planned =>
      cases hhalves : compileHalves c logicalIndex planned p.nextId with
      | error e' =>
        simp only [runVariants, compileVariant, hplan, hhalves] at h
        cases h
        rw [queryId_of_compileHalves hhalves] at hid
        cases hid
        simp only [assignedVariants, hplan, hhalves, List.mem_singleton]
      | ok halves =>
        simp only [runVariants, compileVariant, hplan, hhalves] at h
        simp only [assignedVariants, hplan, hhalves]
        exact List.mem_cons_of_mem _ (ih _ _ h)

theorem queryId_mem_assignedQueries (queries : List LogicalQuery) (logicalIndex : Nat)
    (pass : Pass) (p : Pipeline) {e : PipelineError} {id : QueryId}
    (h : (runQueries c most queries logicalIndex pass p).1 = .error e)
    (hid : e.queryId = some id) :
    id ∈ assignedQueries c most queries logicalIndex pass p := by
  induction queries generalizing logicalIndex pass p with
  | nil => cases h
  | cons q rest ih =>
    cases hrefine : c.refine q logicalIndex with
    | error reason =>
      simp only [runQueries, hrefine] at h
      cases h
      cases hid
    | ok variants =>
      have hmem : (runVariants c most logicalIndex variants pass p).1 = .error e →
          id ∈ assignedVariants c most logicalIndex variants p.nextId :=
        fun hfailed => queryId_mem_assignedVariants most logicalIndex variants pass p hfailed hid
      rcases hrun : runVariants c most logicalIndex variants pass p with ⟨outcome, p'⟩
      rw [hrun] at hmem
      simp only [runQueries, hrefine, hrun] at h
      simp only [assignedQueries, hrefine, hrun, List.mem_append]
      cases outcome with
      | error e' => exact .inl (hmem h)
      | ok pass' => exact .inr (ih _ _ _ h)

/-- A pass keeps the numbering, whatever its outcome. -/
theorem Numbered.run (tags : c.Tags) (queries : List LogicalQuery) {given : List QueryId}
    {p : Pipeline} (h : Numbered given p) :
    Numbered (given ++ p.assigned c most queries) (p.run c most queries).2 := by
  exact (h.withPasses (p.passes + 1)).runQueries most tags queries 0 .empty

end Pass

namespace Numbered

variable {given : List QueryId} {p : Pipeline}

/-- As long as the row of ids has not come round, the next id tells how many were handed out. -/
theorem toNat_next (h : Numbered given p) (room : given.length < UInt64.size - 1) :
    p.nextId.toNat = given.length + 1 := by
  rw [h.next]
  exact UInt64.toNat_ofNat_of_lt' (by omega)

/-- As long as the row of ids has not come round, every id is greater than those before it. -/
theorem pairwise_lt (h : Numbered given p) (room : given.length < UInt64.size - 1) :
    given.Pairwise (· < ·) := by
  -- Positions increase, and no id is far enough out to come round.
  rw [h.consecutive]
  refine List.pairwise_map.2 (List.pairwise_lt_range.imp_of_mem ?_)
  intro m n hm hn hlt
  rw [List.mem_range] at hm hn
  rw [UInt64.lt_iff_toNat_lt, UInt64.toNat_ofNat_of_lt' (by omega),
    UInt64.toNat_ofNat_of_lt' (by omega)]
  omega

/-- As long as the row of ids has not come round, it lies between the first id and the next. -/
theorem bounds (h : Numbered given p) (room : given.length < UInt64.size - 1) {id : QueryId}
    (hid : id ∈ given) : 1 ≤ id ∧ id < p.nextId := by
  rw [h.consecutive, List.mem_map] at hid
  obtain ⟨n, hn, rfl⟩ := hid
  rw [List.mem_range] at hn
  have hvalue : (UInt64.ofNat (n + 1)).toNat = n + 1 :=
    UInt64.toNat_ofNat_of_lt' (by omega)
  rw [UInt64.le_iff_toNat_le, UInt64.lt_iff_toNat_lt, hvalue, h.toNat_next room]
  exact ⟨Nat.le_add_left .., by omega⟩

end Numbered

/-- What a pipeline is asked to do. Every pass may have collaborators of its own, so that they may
answer differently each time. -/
inductive Call
  | run (c : Collaborators) (most : Nat) (queries : List LogicalQuery)
  | reset

/-- The collaborators of a call compile every half under the id that they are handed. -/
def Call.Tags : Call → Prop
  | .run c _ _ => c.Tags
  | .reset => True

/-- The error of a pass, if it has failed. -/
def errorOf : Except PipelineError Pass → List PipelineError
  | .ok _ => []
  | .error e => [e]

/-- A pipeline, with the ids that it has handed out since its last reset and the errors of the
passes that have failed since then. -/
structure Ledger where
  pipeline : Pipeline := fresh
  given : List QueryId := []
  errors : List PipelineError := []

namespace Ledger

/-- The pipeline after a call, whatever the outcome of that call. -/
def call (l : Ledger) : Call → Ledger
  | .run c most queries =>
    { pipeline := (l.pipeline.run c most queries).2
      given := l.given ++ l.pipeline.assigned c most queries
      errors := l.errors ++ errorOf (l.pipeline.run c most queries).1 }
  | .reset => {}

/-- A new pipeline after calls in order. -/
def after (calls : List Call) : Ledger := calls.foldl call {}

/-- What holds between calls: the ids go on in a row, and those at which a pass has failed are in
it. -/
structure Kept (l : Ledger) : Prop where
  numbered : Numbered l.given l.pipeline
  failed : ∀ e ∈ l.errors, ∀ id, e.queryId = some id → id ∈ l.given

/-- One call preserves what holds between calls. -/
theorem Kept.call {l : Ledger} (h : l.Kept) {x : Call} (tags : x.Tags) : (l.call x).Kept := by
  cases x with
  | run c most queries =>
    refine ⟨h.numbered.run most tags queries, fun e he id hid => ?_⟩
    rcases List.mem_append.1 he with hold | hnew
    · exact List.mem_append_left _ (h.failed e hold id hid)
    · refine List.mem_append_right _ ?_
      cases hrun : (l.pipeline.run c most queries).1 with
      | ok pass =>
        rw [hrun] at hnew
        cases hnew
      | error e' =>
        rw [hrun] at hnew
        rw [List.mem_singleton.1 hnew] at hid
        exact queryId_mem_assignedQueries most queries 0 .empty _ hrun hid
  | reset => exact ⟨.fresh, fun _ he => by cases he⟩

/-- Any calls preserve what holds between calls. -/
theorem Kept.foldl {l : Ledger} (h : l.Kept) (calls : List Call) (tags : ∀ x ∈ calls, x.Tags) :
    (calls.foldl Ledger.call l).Kept := by
  induction calls generalizing l with
  | nil => exact h
  | cons x rest ih =>
    refine ih (h.call (tags x List.mem_cons_self)) ?_
    exact fun y hy => tags y (List.mem_cons_of_mem x hy)

/-- What can be relied on between calls. -/
structure Consistent (l : Ledger) : Prop where
  length_eq : l.pipeline.data.length = l.pipeline.stream.length
  id_eq : ∀ (i : Nat) (hdata : i < l.pipeline.data.length) (hstream : i < l.pipeline.stream.length),
    (l.pipeline.data.get ⟨i, hdata⟩).id = (l.pipeline.stream.get ⟨i, hstream⟩).id
  increasing : (ids l.pipeline.data).Pairwise (· < ·)
  between : ∀ q ∈ l.pipeline.data, 1 ≤ q.id ∧ q.id < l.pipeline.nextId
  /-- No id has been handed out twice, whether or not its variant was compiled. -/
  nodup : l.given.Nodup
  /-- Every id that is kept was handed out. -/
  kept : ∀ q ∈ l.pipeline.data, q.id ∈ l.given
  /-- So was every id whose compilation has failed. -/
  failed : ∀ e ∈ l.errors, ∀ id, e.queryId = some id → id ∈ l.given
  /-- The next id counts all that were handed out, and is none of them. -/
  toNat_next : l.pipeline.nextId.toNat = l.given.length + 1
  next_fresh : l.pipeline.nextId ∉ l.given

/-- Whatever is asked of a new pipeline, in any order and with any collaborators that compile under
the ids they are handed: between calls, both planes match, their ids increase strictly and lie
between 1 and the next id, and no id is handed out twice. -/
theorem consistent_after (calls : List Call) (tags : ∀ x ∈ calls, x.Tags)
    (room : (after calls).given.length < UInt64.size - 1) : (after calls).Consistent := by
  have hkept : (after calls).Kept := Kept.foldl ⟨.fresh, fun _ he => by cases he⟩ calls tags
  have h := hkept.numbered
  have hgiven := h.pairwise_lt room
  have hmem : ∀ q ∈ (after calls).pipeline.data, q.id ∈ (after calls).given :=
    fun q hq => h.kept.subset (List.mem_map_of_mem hq)
  refine
    { length_eq := ?_, id_eq := ?_, increasing := hgiven.sublist h.kept
      between := fun q hq => h.bounds room (hmem q hq)
      nodup := hgiven.imp fun hlt => (UInt64.ne_of_lt hlt)
      kept := hmem, failed := hkept.failed, toNat_next := h.toNat_next room, next_fresh := ?_ }
  · simpa only [length_ids] using congrArg List.length h.matched
  · intro i hdata hstream
    have hi : (ids (after calls).pipeline.data)[i]? = (ids (after calls).pipeline.stream)[i]? :=
      congrArg (·[i]?) h.matched
    simpa [ids, hdata, hstream] using hi
  · intro hnext
    exact UInt64.lt_irrefl _ (h.bounds room hnext).2

/-- A pass that is refused the second half of its second variant, and a pass after it. -/
def interrupted : List Call :=
  [.run (.scripted { refusedStream := [2] }) 4 [⟨"ddos", ["map(dIP)"], [8, 16]⟩],
    .run .reference 4 [⟨"scan", ["map(sIP)"], []⟩]]

/-- The id of the refused variant is handed out and never again; both planes go on without it. -/
theorem consistent_interrupted :
    (∀ x ∈ interrupted, x.Tags) ∧ (after interrupted).given = [1, 2, 3] ∧
      (after interrupted).errors.map (·.queryId) = [some 2] ∧
      ids (after interrupted).pipeline.data = [1, 3] ∧ (after interrupted).Consistent := by
  have htags : ∀ x ∈ interrupted, x.Tags := by
    intro x hx
    simp only [interrupted, List.mem_cons, List.not_mem_nil, or_false] at hx
    rcases hx with rfl | rfl
    · exact Collaborators.scripted_tags _
    · exact Collaborators.reference_tags
  have hgiven : (after interrupted).given = [1, 2, 3] := by decide
  have hroom : (after interrupted).given.length < UInt64.size - 1 := by
    rw [hgiven]
    decide
  exact ⟨htags, hgiven, by decide, by decide, consistent_after interrupted htags hroom⟩

end Ledger

end Pipeline

end ControlPlane
