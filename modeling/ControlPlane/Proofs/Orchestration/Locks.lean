import ControlPlane.Proofs.Orchestration.Floor

/-!
# Who holds the pipeline and the desk

Only one party at a time is at the desk, and whoever makes a pass holds the pipeline as well until
the pass is over.

## Main definitions

- `Floor.Locks`: where the parties stand is where the pipeline and the desk say they are.
- `Floor.Seated`: a party is at the desk, wherever it is said to stand.

## Main statements

- `Floor.Locks.seated`, `Floor.Locks.seat`: who is at the desk.
- `Floor.Seated.stay`, `Floor.Seated.leave`: what becomes of it.
- `Floor.Locks.take`, `Floor.Seated.settle`, `Floor.Seated.compile`: what parties do with both.
-/

namespace ControlPlane

namespace Standing

/-- Whether a party that is not the listener holds the pipeline. -/
@[simp] def hasPipeline : Standing → Bool
  | .holding => true
  | .preparing => true
  | .sending _ => true
  | _ => false

/-- Whether a party is at the desk. -/
@[simp] def isAtDesk : Standing → Bool
  | .preparing => true
  | .sending _ => true
  | _ => false

/-- Whether a party that is not the listener has compiled nothing. -/
@[simp] def isNew : Standing → Bool
  | .outside => true
  | .holding => true
  | .preparing => true
  | .refused => true
  | _ => false

/-- Whether the runner has yet to compile. -/
@[simp] def isEarly : Standing → Bool
  | .outside => true
  | .holding => true
  | .preparing => true
  | _ => false

/-- Whether a party has nothing to send any more. -/
@[simp] def isOver : Standing → Bool
  | .refused => true
  | .served => true
  | .gone => true
  | _ => false

theorem hasPipeline_of_isAtDesk {s : Standing} (h : s.isAtDesk = true) : s.hasPipeline = true := by
  cases s <;> first | rfl | cases h

theorem isOver_of_hasPipeline {s : Standing} (h : s.hasPipeline = true) : s.isOver = false := by
  cases s <;> first | rfl | cases h

theorem isAtDesk_of_hasPipeline {s : Standing} (h : s.hasPipeline = false) :
    s.isAtDesk = false := by
  cases s <;> first | rfl | cases h

end Standing

/-- Whoever has failed holds nothing. -/
theorem OrchestrationError.hasPipeline_standing (e : OrchestrationError) :
    e.standing.hasPipeline = false := by
  rcases e.standing_cases with h | h <;> rw [h] <;> rfl

namespace Floor

/-- Who holds the pipeline and the desk. -/
structure Locks (F : Floor) : Prop where
  pipeline : ∀ p, F.holder = some p ↔ p ≠ .listener ∧ (F.standing p).hasPipeline = true
  desk : ∀ p, F.desk.holder = some p ↔ (F.standing p).isAtDesk = true

/-- A party is at the desk, and has the pipeline unless it is the listener; its own standing has yet
to say so. -/
structure Seated (F : Floor) (p : Party) : Prop where
  desk : F.desk.holder = some p
  away : ∀ q, q ≠ p → (F.standing q).isAtDesk = false
  pipeline : ∀ q, q ≠ p → (F.holder = some q ↔ q ≠ .listener ∧ (F.standing q).hasPipeline = true)
  own : F.holder = some p ↔ p ≠ .listener

variable {F : Floor} {p q : Party} {s : Standing}

@[simp] theorem standing_move_self : (F.move p s).standing p = s := Function.update_self ..

theorem standing_move_of_ne (h : q ≠ p) : (F.move p s).standing q = F.standing q :=
  Function.update_of_ne h ..

/-- Whoever's standing says that it is at the desk is there. -/
theorem Locks.seated (h : F.Locks) (hp : (F.standing p).isAtDesk = true) : F.Seated p where
  desk := (h.desk p).2 hp
  away q hq := by
    by_contra hat
    have hheld := (h.desk q).2 (Bool.of_not_eq_false hat)
    rw [(h.desk p).2 hp] at hheld
    exact hq (Option.some.inj hheld).symm
  pipeline q _ := h.pipeline q
  own := by
    rw [h.pipeline p]
    exact ⟨fun hboth => hboth.1, fun hne => ⟨hne, Standing.hasPipeline_of_isAtDesk hp⟩⟩

/-- Whoever holds the pipeline, or is the listener, may take a free desk. -/
theorem Locks.seat (h : F.Locks) (free : F.desk.holder = none)
    (hp : p ≠ .listener → (F.standing p).hasPipeline = true) : (F.seat p).Seated p where
  desk := rfl
  away q _ := by
    by_contra hat
    have hheld := (h.desk q).2 (Bool.of_not_eq_false hat)
    rw [free] at hheld
    cases hheld
  pipeline q _ := h.pipeline q
  own := ⟨fun hheld => ((h.pipeline p).1 hheld).1, fun hne => (h.pipeline p).2 ⟨hne, hp hne⟩⟩

/-- A party at the desk stays there. -/
theorem Seated.stay (h : F.Seated p) (hs : s.isAtDesk = true) : (F.move p s).Locks where
  pipeline q := by
    by_cases hq : q = p
    · subst hq
      rw [standing_move_self]
      refine h.own.trans ⟨fun hne => ?_, fun hboth => hboth.1⟩
      exact ⟨hne, Standing.hasPipeline_of_isAtDesk hs⟩
    · rw [standing_move_of_ne hq]
      exact h.pipeline q hq
  desk q := by
    by_cases hq : q = p
    · subst hq
      rw [standing_move_self]
      exact ⟨fun _ => hs, fun _ => h.desk⟩
    · rw [standing_move_of_ne hq, h.away q hq]
      refine ⟨fun hheld => absurd ?_ hq, by simp⟩
      exact (Option.some.inj (h.desk.symm.trans hheld)).symm

/-- A party at the desk leaves it, and gives up the pipeline with it. -/
theorem Seated.leave (h : F.Seated p) (hs : s.hasPipeline = false) :
    ((F.vacate p).move p s).Locks where
  pipeline q := by
    by_cases hq : q = p
    · subst hq
      rw [standing_move_self, hs]
      refine ⟨fun hheld => ?_, by simp⟩
      by_cases hlistener : q = .listener
      · have hown : F.holder = some q := by simpa [move, vacate, hlistener] using hheld
        exact absurd hlistener (h.own.1 hown)
      · simp [move, vacate, hlistener] at hheld
    · rw [standing_move_of_ne hq]
      by_cases hlistener : p = .listener
      · simpa [move, vacate, hlistener] using h.pipeline q hq
      · -- The pipeline was the one of `p`, so nobody else can have had it.
        have hother : ¬ (q ≠ .listener ∧ (F.standing q).hasPipeline = true) := by
          rw [← h.pipeline q hq, h.own.2 hlistener]
          exact fun hheld => hq (Option.some.inj hheld).symm
        simpa [move, vacate, hlistener] using hother
  desk q := by
    have hnobody : ((F.vacate p).move p s).desk.holder = none := rfl
    rw [hnobody]
    refine ⟨by simp, fun hat => ?_⟩
    by_cases hq : q = p
    · subst hq
      rw [standing_move_self] at hat
      rw [Standing.hasPipeline_of_isAtDesk hat] at hs
      cases hs
    · rw [standing_move_of_ne hq] at hat
      have haway := h.away q hq
      rw [vacate] at hat
      rw [haway] at hat
      cases hat

/-- Somebody gets on who is not at the desk; `holder` holds the pipeline then. -/
theorem Locks.getOn (h : F.Locks) (hfrom : (F.standing p).isAtDesk = false)
    (hto : s.isAtDesk = false) {holder : Option Party}
    (hholder : ∀ q, holder = some q ↔
      q ≠ .listener ∧ ((F.move p s).standing q).hasPipeline = true) :
    ({ F with holder }.move p s).Locks where
  pipeline := hholder
  desk q := by
    by_cases hqp : q = p
    · subst hqp
      have hdesk : F.desk.holder ≠ some q := by
        rw [Ne, h.desk q, hfrom]
        simp
      rw [standing_move_self, hto]
      exact ⟨fun hheld => absurd hheld hdesk, by simp⟩
    · rw [standing_move_of_ne hqp]
      exact h.desk q

/-- The runner or a caller takes the free pipeline. -/
theorem Locks.take (h : F.Locks) (hp : p ≠ .listener) (free : F.holder = none)
    (hs : F.standing p = .outside) : ({ F with holder := some p }.move p .holding).Locks := by
  refine h.getOn (by rw [hs]; rfl) rfl fun q => ?_
  by_cases hqp : q = p
  · subst hqp
    rw [standing_move_self]
    exact ⟨fun _ => ⟨hp, rfl⟩, fun _ => rfl⟩
  · rw [standing_move_of_ne hqp, ← h.pipeline q, free]
    exact ⟨fun hheld => absurd (Option.some.inj hheld).symm hqp, by simp⟩

/-- The run fails after the initial configuration has been sent. -/
theorem Locks.close (h : F.Locks) (hs : F.standing .runner = .served) :
    (F.move .runner .gone).Locks := by
  refine h.getOn (by rw [hs]; rfl) rfl fun q => ?_
  rw [h.pipeline q]
  by_cases hrunner : q = .runner
  · subst hrunner
    rw [standing_move_self, hs]
    rfl
  · rw [standing_move_of_ne hrunner]

theorem hasPipeline_resting (p : Party) (outcome : Except DistributorError Unit) :
    (resting p outcome).hasPipeline = false := by
  unfold resting
  split
  · split <;> rfl
  · split
    · rfl
    · split <;> rfl

/-- A party at the desk gets on with its messages. -/
theorem Seated.settle (h : F.Seated p) (progress : Parcel.Progress) :
    (F.settle p progress).Locks := by
  rcases progress with parcel | outcome
  · exact h.stay rfl
  · exact h.leave (hasPipeline_resting p outcome)

/-- A party at the desk has its queries compiled. -/
theorem Seated.compile (h : F.Seated p) (c : Collaborators) (plan : Plan)
    (queries : List LogicalQuery) (messages : Pass → Pipeline → List Outgoing) :
    (F.compile c plan p queries messages).Locks := by
  unfold Floor.compile
  rcases F.pipeline.run c plan.candidates queries with ⟨outcome, q⟩
  have hseated : ({ F with pipeline := q } : Floor).Seated p := ⟨h.desk, h.away, h.pipeline, h.own⟩
  cases outcome with
  | error e => exact hseated.leave rfl
  | ok pass => exact hseated.settle _

end Floor

end ControlPlane
