import ControlPlane.Proofs.Pipeline.Effect
import Mathlib.Data.List.Forall2

/-!
# Passes over queries in parts

It does not matter whether queries come in one pass or in several, as long as the collaborators do
not look at positions: the same is compiled under the same ids, and the same failure ends it. Only
the position that the failure tells is counted from the beginning of its own pass.

## Main definitions

- `RefinedQuery.unplaced`: a variant without the position of its query.
- `Collaborators.Unplaced`: collaborators that do not look at positions.
- `PipelineError.later`: the failure of a query that stands further back.
- `Pipeline.Joined`: one pass instead of two.

## Main statements

- `Pipeline.runItems_later`: items that stand further back come to the same.
- `Pipeline.joined_of_unplaced`: one pass over all queries does what two passes do.
-/

namespace ControlPlane

/-- A variant without the position of its query, which is zero for all of them. -/
def RefinedQuery.unplaced (q : RefinedQuery) : RefinedQuery := { q with logicalIndex := 0 }

/-- Collaborators that do not look at positions. They may pass them on in the variants. -/
structure Collaborators.Unplaced (c : Collaborators) : Prop where
  refine : ∀ q i j, (c.refine q i).map (List.map RefinedQuery.unplaced) =
    (c.refine q j).map (List.map RefinedQuery.unplaced)
  propose : ∀ q most, c.propose q most = c.propose q.unplaced most
  select : ∀ q plans, c.select q plans = c.select q.unplaced plans
  compileData : ∀ q id, c.compileData q id = c.compileData q.unplaced id
  compileStream : ∀ q id, c.compileStream q id = c.compileStream q.unplaced id

namespace Collaborators

theorem map_unplaced_refine (q : LogicalQuery) (i : Nat) :
    (Reference.refine q i).map RefinedQuery.unplaced = Reference.refine q 0 := by
  unfold Reference.refine
  split
  · rfl
  · split
    · rfl
    · rw [List.mapIdx_eq_zipIdx_map, List.mapIdx_eq_zipIdx_map, List.map_map]
      rfl

theorem reference_unplaced : reference.Unplaced where
  refine q i j := by
    simp only [reference, Except.map, map_unplaced_refine]
  propose _ _ := rfl
  select _ _ := rfl
  compileData _ _ := rfl
  compileStream _ _ := rfl

/-- A script that refuses no logical query by its position does not look at positions either. -/
theorem scripted_unplaced {s : Script} (h : s.refusedQueries = []) : (scripted s).Unplaced where
  refine q i j := by
    have hrefine : ∀ i, (scripted s).refine q i = .ok (Reference.refine q i) := by
      intro i
      simp [scripted, h]
    rw [hrefine, hrefine, Except.map, Except.map, map_unplaced_refine, map_unplaced_refine]
  propose _ _ := rfl
  select _ _ := rfl
  compileData _ _ := rfl
  compileStream _ _ := rfl

end Collaborators

/-- The failure of the same query when it stands `n` positions further back. -/
def PipelineError.later (n : Nat) : PipelineError → PipelineError
  | .refine i reason => .refine (i + n) reason
  | .partition i v reason => .partition (i + n) v reason
  | .noPartitionPlan i v => .noPartitionPlan (i + n) v
  | .compile i v id plane reason => .compile (i + n) v id plane reason

/-- What two passes have compiled together. -/
def Pass.append (first second : Pass) : Pass :=
  ⟨first.data ++ second.data, first.stream ++ second.stream⟩

theorem Pass.append_empty (pass : Pass) : pass.append .empty = pass := by
  simp [Pass.append, Pass.empty]

theorem Pass.append_push (first second : Pass) (data stream : CompiledQuery) :
    (first.append second).push data stream = first.append (second.push data stream) := by
  simp [Pass.append, Pass.push]

namespace Pipeline

/-- The second item is the first one, `n` positions further back. -/
inductive Item.Later (n : Nat) : Item → Item → Prop
  | refused {i : Nat} {reason : String} :
      Later n (.refused i reason) (.refused (i + n) reason)
  | variant {i : Nat} {q r : RefinedQuery} :
      q.unplaced = r.unplaced → Later n (.variant i q) (.variant (i + n) r)

variable {c : Collaborators} {most n : Nat} {xs ys : List Item}

/-! ## Items further back -/

theorem items_append (a b : List LogicalQuery) (i : Nat) :
    items c (a ++ b) i = items c a i ++ items c b (i + a.length) := by
  rw [items, List.zipIdx_append, List.flatMap_append]
  rfl

theorem itemsOf_later (hc : c.Unplaced) (q : LogicalQuery) (i n : Nat) :
    List.Forall₂ (Item.Later n) (itemsOf c q i) (itemsOf c q (i + n)) := by
  have hrefine := hc.refine q i (i + n)
  unfold itemsOf
  cases hi : c.refine q i with
  | error reason =>
    cases hn : c.refine q (i + n) with
    | error reason' =>
      rw [hi, hn] at hrefine
      cases hrefine
      exact .cons .refused .nil
    | ok variants =>
      rw [hi, hn] at hrefine
      cases hrefine
  | ok variants =>
    cases hn : c.refine q (i + n) with
    | error reason =>
      rw [hi, hn] at hrefine
      cases hrefine
    | ok variants' =>
      rw [hi, hn] at hrefine
      have hmap : variants.map RefinedQuery.unplaced = variants'.map RefinedQuery.unplaced :=
        Except.ok.inj hrefine
      have hsame : List.Forall₂ (fun q r => q.unplaced = r.unplaced) variants variants' := by
        rw [← List.forall₂_eq_eq_eq, List.forall₂_map_left_iff, List.forall₂_map_right_iff] at hmap
        exact hmap
      dsimp only
      rw [List.forall₂_map_left_iff, List.forall₂_map_right_iff]
      exact hsame.imp fun _ _ h => .variant h

theorem items_later (hc : c.Unplaced) (queries : List LogicalQuery) (i n : Nat) :
    List.Forall₂ (Item.Later n) (items c queries i) (items c queries (i + n)) := by
  induction queries generalizing i with
  | nil => exact .nil
  | cons q rest ih =>
    have hplace : i + n + 1 = i + 1 + n := by omega
    rw [items_cons, items_cons, hplace]
    exact List.rel_append (itemsOf_later hc q i n) (ih (i + 1))

theorem choosePlan_later (hc : c.Unplaced) {q r : RefinedQuery} (h : q.unplaced = r.unplaced)
    (most i n : Nat) :
    (∃ e, choosePlan c most i q = .error e ∧ choosePlan c most (i + n) r = .error (e.later n)) ∨
      ∃ q' r', choosePlan c most i q = .ok q' ∧ choosePlan c most (i + n) r = .ok r' ∧
        q'.unplaced = r'.unplaced := by
  have hvariant : q.variant = r.variant := (congrArg RefinedQuery.variant h :)
  have hpropose : c.propose r most = c.propose q most := by
    rw [hc.propose r, hc.propose q, h]
  unfold choosePlan
  rw [hpropose]
  cases c.propose q most with
  | error reason => exact .inl ⟨_, rfl, by rw [hvariant]; rfl⟩
  | ok plans =>
    have hselect : c.select r plans = c.select q plans := by
      rw [hc.select r, hc.select q, h]
    dsimp only
    rw [hselect]
    cases (c.select q plans).bind (plans[·]?) with
    | none => exact .inl ⟨_, rfl, by rw [hvariant]; rfl⟩
    | some plan =>
      have hchosen := congrArg (fun u : RefinedQuery => { u with plans, chosen := some plan }) h
      exact .inr ⟨_, _, rfl, rfl, hchosen⟩

theorem compileHalves_later (hc : c.Unplaced) {q r : RefinedQuery} (h : q.unplaced = r.unplaced)
    (i n : Nat) (id : QueryId) :
    compileHalves c (i + n) r id = (compileHalves c i q id).mapError (·.later n) := by
  have hvariant : q.variant = r.variant := (congrArg RefinedQuery.variant h :)
  have hdata : c.compileData r id = c.compileData q id := by
    rw [hc.compileData r, hc.compileData q, h]
  have hstream : c.compileStream r id = c.compileStream q id := by
    rw [hc.compileStream r, hc.compileStream q, h]
  unfold compileHalves
  rw [hdata, hstream, hvariant]
  cases c.compileData q id with
  | error reason => rfl
  | ok data =>
    cases c.compileStream q id with
    | error reason => rfl
    | ok stream => rfl

/-- An item further back comes to the same, and leaves the same next id. -/
theorem Item.attempt_later (hc : c.Unplaced) {x y : Item} (h : Item.Later n x y) (id : QueryId) :
    y.attempt c most id =
      ((x.attempt c most id).1.mapError (·.later n), (x.attempt c most id).2) := by
  cases h with
  | refused => rfl
  | @variant i q r h =>
    rcases choosePlan_later hc h most i n with ⟨e, hq, hr⟩ | ⟨q', r', hq, hr, hplanned⟩
    · simp only [attempt, compileVariant, hq, hr]
      rfl
    · simp only [attempt, compileVariant, hq, hr, compileHalves_later hc hplanned]

/-- Items further back come to the same, whatever was compiled before them and however many passes
there were. -/
theorem runItems_later (hc : c.Unplaced) (most : Nat) (h : List.Forall₂ (Item.Later n) xs ys)
    (first pass : Pass) (p : Pipeline) (passes : UInt64) :
    runItems c most ys (first.append pass) { p with passes } =
      match runItems c most xs pass p with
      | (.error e, p) => (.error (e.later n), { p with passes })
      | (.ok pass, p) => (.ok (first.append pass), { p with passes }) := by
  induction h generalizing pass p with
  | nil => rfl
  | @cons x y xs ys hitem _ ih =>
    rw [runItems, runItems, Item.attempt_later hc hitem]
    dsimp only
    rcases x.attempt c most p.nextId with ⟨outcome, next⟩
    cases outcome with
    | error e => rfl
    | ok halves =>
      have hrest := ih (pass.push halves.1 halves.2)
        ({ p with nextId := next }.commit halves.1 halves.2)
      rw [← Pass.append_push] at hrest
      exact hrest

/-! ## One pass instead of two -/

/-- One pass over `a` and `b`, from `p` on, against a pass over `a` and then one over `b`. It counts
as a single pass, whatever comes of it. -/
structure Joined (c : Collaborators) (most : Nat) (p : Pipeline) (a b : List LogicalQuery) :
    Prop where
  /-- If the pass over `a` fails, this is all that happens. -/
  stops : ∀ {e}, (p.run c most a).1 = .error e →
    p.run c most (a ++ b) = (.error e, (p.run c most a).2)
  /-- If both passes succeed, so does the one, with all that they have compiled. -/
  completes : ∀ {first second}, (p.run c most a).1 = .ok first →
    ((p.run c most a).2.run c most b).1 = .ok second →
    p.run c most (a ++ b) = (.ok (first.append second),
      { ((p.run c most a).2.run c most b).2 with passes := p.passes + 1 })
  /-- If the pass over `b` fails, so does the one, with its position behind those of `a`. -/
  fails : ∀ {first e}, (p.run c most a).1 = .ok first →
    ((p.run c most a).2.run c most b).1 = .error e →
    p.run c most (a ++ b) = (.error (e.later a.length),
      { ((p.run c most a).2.run c most b).2 with passes := p.passes + 1 })

theorem passes_runItems (xs : List Item) (pass : Pass) (p : Pipeline) :
    (runItems c most xs pass p).2.passes = p.passes := by
  induction xs generalizing pass p with
  | nil => rfl
  | cons item rest ih =>
    rw [runItems]
    rcases item.attempt c most p.nextId with ⟨outcome, next⟩
    cases outcome with
    | error e => rfl
    | ok halves => exact ih _ _

theorem passes_run (p : Pipeline) (queries : List LogicalQuery) :
    (p.run c most queries).2.passes = p.passes + 1 := by
  rw [run, runQueries_eq_runItems, passes_runItems]

/-- A pass over more queries begins as the pass over the first of them, and goes on from there if
that succeeds. -/
theorem run_append (p : Pipeline) (a b : List LogicalQuery) :
    p.run c most (a ++ b) =
      match p.run c most a with
      | (.error e, p) => (.error e, p)
      | (.ok pass, p) => runItems c most (items c b a.length) pass p := by
  have hrun : p.run c most a =
      runItems c most (items c a 0) .empty { p with passes := p.passes + 1 } :=
    runQueries_eq_runItems ..
  rw [run, runQueries_eq_runItems, items_append, Nat.zero_add, hrun]
  exact runItems_append ..

/-- What follows a pass that has compiled `first` is another pass, but for the positions and the
count. -/
theorem runItems_items (hc : c.Unplaced) (n : Nat) (b : List LogicalQuery) (first : Pass)
    (p : Pipeline) :
    runItems c most (items c b n) first p =
      match p.run c most b with
      | (.error e, q) => (.error (e.later n), { q with passes := p.passes })
      | (.ok second, q) => (.ok (first.append second), { q with passes := p.passes }) := by
  have hlater := items_later hc b 0 n
  rw [Nat.zero_add] at hlater
  have hrun := runItems_later hc most hlater first .empty { p with passes := p.passes + 1 }
    p.passes
  rw [Pass.append_empty] at hrun
  rw [run, runQueries_eq_runItems]
  exact hrun

theorem run_append_of_error {p : Pipeline} {a : List LogicalQuery} {e : PipelineError}
    (h : (p.run c most a).1 = .error e) (b : List LogicalQuery) :
    p.run c most (a ++ b) = (.error e, (p.run c most a).2) := by
  rw [run_append]
  rcases hfirst : p.run c most a with ⟨outcome, q⟩
  rw [hfirst] at h
  cases h
  rfl

theorem run_append_of_ok (hc : c.Unplaced) {p : Pipeline} {a : List LogicalQuery} {first : Pass}
    (h : (p.run c most a).1 = .ok first) (b : List LogicalQuery) :
    p.run c most (a ++ b) =
      match (p.run c most a).2.run c most b with
      | (.error e, q) => (.error (e.later a.length), { q with passes := p.passes + 1 })
      | (.ok second, q) => (.ok (first.append second), { q with passes := p.passes + 1 }) := by
  have hpasses : (p.run c most a).2.passes = p.passes + 1 := passes_run p a
  rw [run_append]
  rcases hfirst : p.run c most a with ⟨outcome, q⟩
  rw [hfirst] at h hpasses
  cases h
  dsimp only at hpasses ⊢
  rw [runItems_items hc, hpasses]

/-- With collaborators that do not look at positions, one pass over all queries does what two passes
over parts of them do, from any pipeline on and wherever it fails. -/
theorem joined_of_unplaced (hc : c.Unplaced) (most : Nat) (p : Pipeline)
    (a b : List LogicalQuery) : Joined c most p a b where
  stops h := run_append_of_error h b
  completes {first second} hfirst hsecond := by
    rw [run_append_of_ok hc hfirst]
    rcases hrun : (p.run c most a).2.run c most b with ⟨outcome, q⟩
    rw [hrun] at hsecond
    cases hsecond
    rfl
  fails {first e} hfirst hsecond := by
    rw [run_append_of_ok hc hfirst]
    rcases hrun : (p.run c most a).2.run c most b with ⟨outcome, q⟩
    rw [hrun] at hsecond
    cases hsecond
    rfl

/-- Reference collaborators but for the stream half under the id 4. -/
def fourthRefused : Collaborators := .scripted { refusedStream := [4] }

/-- Two queries, the first of which has nothing to compile. -/
def idleThenTwo : List LogicalQuery :=
  [⟨"idle", [], []⟩, ⟨"scan", ["map(sIP)"], [8]⟩, ⟨"dns", ["map(dIP)"], []⟩]

/-- The second of two passes fails at its third query, under the fourth id. In one pass this is the
fourth query, and everything else is the same. -/
theorem joined_before_failure :
    fourthRefused.Unplaced ∧ Joined fourthRefused 4 fresh twoLevels idleThenTwo ∧
      ((fresh.run fourthRefused 4 twoLevels).2.run fourthRefused 4 idleThenTwo).1 =
        .error (.compile 2 0 4 .stream "unsupported operator") ∧
      (fresh.run fourthRefused 4 (twoLevels ++ idleThenTwo)).1 =
        .error (.compile 3 0 4 .stream "unsupported operator") ∧
      ids (fresh.run fourthRefused 4 (twoLevels ++ idleThenTwo)).2.data = [1, 2, 3] := by
  have hunplaced : fourthRefused.Unplaced := Collaborators.scripted_unplaced rfl
  exact ⟨hunplaced, joined_of_unplaced hunplaced 4 fresh twoLevels idleThenTwo, by decide,
    by decide, by decide⟩

end Pipeline

end ControlPlane
