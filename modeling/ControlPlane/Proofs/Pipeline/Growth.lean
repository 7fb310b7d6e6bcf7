import ControlPlane.Pipeline.Run
import Mathlib.Data.List.Basic

/-!
# What a pass leaves behind

A pass only ever adds to the two planes. If it succeeds, what it has compiled is just what it has
added; if it fails, what it had added before stays.

## Main statements

- `Pipeline.run_adds`: what a pass adds to the planes, and what it says it has compiled.
-/

namespace ControlPlane.Pipeline

/-- How a pass that has got from `p` to `q` has changed the planes, and what it reports if it has
compiled `pass` before. -/
def Adds (p q : Pipeline) (pass : Pass) (outcome : Except PipelineError Pass) : Prop :=
  ∃ data stream, q.data = p.data ++ data ∧ q.stream = p.stream ++ stream ∧
    ∀ done, outcome = .ok done → done = ⟨pass.data ++ data, pass.stream ++ stream⟩

namespace Adds

variable {p q r : Pipeline} {pass : Pass} {outcome : Except PipelineError Pass}

/-- Nothing has been added, and everything that was compiled is reported. -/
theorem nothing (hdata : q.data = p.data) (hstream : q.stream = p.stream) :
    p.Adds q pass (.ok pass) := by
  refine ⟨[], [], by simp [hdata], by simp [hstream], fun done h => ?_⟩
  cases h
  simp

/-- Nothing has been added before the pass failed. -/
theorem failed (hdata : q.data = p.data) (hstream : q.stream = p.stream) (e : PipelineError) :
    p.Adds q pass (.error e) :=
  ⟨[], [], by simp [hdata], by simp [hstream], by simp⟩

/-- More is added after a part of the pass that has succeeded. -/
theorem trans {between : Pass} (h : p.Adds q pass (.ok between))
    (h' : q.Adds r between outcome) : p.Adds r pass outcome := by
  obtain ⟨data, stream, hdata, hstream, hdone⟩ := h
  obtain ⟨data', stream', hdata', hstream', hdone'⟩ := h'
  obtain rfl := hdone between rfl
  refine ⟨data ++ data', stream ++ stream', ?_, ?_, fun done hd => ?_⟩
  · rw [hdata', hdata, List.append_assoc]
  · rw [hstream', hstream, List.append_assoc]
  · rw [hdone' done hd, List.append_assoc, List.append_assoc]

/-- One variant has been compiled. -/
theorem commit (hdata : q.data = p.data) (hstream : q.stream = p.stream)
    (data stream : CompiledQuery) :
    p.Adds (q.commit data stream) pass (.ok (pass.push data stream)) := by
  refine ⟨[data], [stream], ?_, ?_, fun done h => ?_⟩
  · rw [Pipeline.commit, hdata]
  · rw [Pipeline.commit, hstream]
  · cases h
    rfl

end Adds

variable (c : Collaborators) (most : Nat)

theorem runVariants_adds (logicalIndex : Nat) (variants : List RefinedQuery) (pass : Pass)
    (p : Pipeline) :
    p.Adds (runVariants c most logicalIndex variants pass p).2 pass
      (runVariants c most logicalIndex variants pass p).1 := by
  induction variants generalizing pass p with
  | nil => exact .nothing rfl rfl
  | cons q rest ih =>
    rcases hone : compileVariant c most logicalIndex q p.nextId with ⟨outcome, next⟩
    cases outcome with
    | error e =>
      simp only [runVariants, hone]
      exact .failed rfl rfl e
    | ok halves =>
      simp only [runVariants, hone]
      exact (Adds.commit rfl rfl halves.1 halves.2).trans (ih _ _)

theorem runQueries_adds (queries : List LogicalQuery) (logicalIndex : Nat) (pass : Pass)
    (p : Pipeline) :
    p.Adds (runQueries c most queries logicalIndex pass p).2 pass
      (runQueries c most queries logicalIndex pass p).1 := by
  induction queries generalizing logicalIndex pass p with
  | nil => exact .nothing rfl rfl
  | cons q rest ih =>
    cases hrefine : c.refine q logicalIndex with
    | error reason =>
      simp only [runQueries, hrefine]
      exact .failed rfl rfl _
    | ok variants =>
      have hvariants := runVariants_adds c most logicalIndex variants pass p
      rcases hrun : runVariants c most logicalIndex variants pass p with ⟨outcome, p'⟩
      rw [hrun] at hvariants
      simp only [runQueries, hrefine, hrun]
      cases outcome with
      | error e => exact hvariants
      | ok between => exact hvariants.trans (ih _ _ _)

/-- A pass adds to the planes. If it succeeds, it reports what it has added, and nothing else. -/
theorem run_adds (p : Pipeline) (queries : List LogicalQuery) :
    ∃ data stream, (p.run c most queries).2.data = p.data ++ data ∧
      (p.run c most queries).2.stream = p.stream ++ stream ∧
      ∀ pass, (p.run c most queries).1 = .ok pass → pass = ⟨data, stream⟩ :=
  runQueries_adds c most queries 0 .empty { p with passes := p.passes + 1 }

end ControlPlane.Pipeline
