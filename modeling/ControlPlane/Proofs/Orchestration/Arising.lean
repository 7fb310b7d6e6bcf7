import ControlPlane.Proofs.Orchestration.Listening
import ControlPlane.Proofs.Orchestration.Locks
import ControlPlane.Proofs.Orchestration.Chronicle

/-!
# Runs one after another

A control plane may be run again when a run is over, and whoever asks for refinements does not care
which run is under way. The desk and the pipeline pass from run to run, so a new run has to find
them as if there had been no other.

## Main definitions

- `Orchestration.Arises`: what may come of a new control plane, run after run.
- `Orchestration.Leads`: what may come of a control plane in the same run.

## Main statements

- `Floor.Locks.step`: what every step of the floor preserves.
- `Orchestration.Arises.attended`, `Orchestration.Arises.locks`: what holds at any time.
-/

namespace ControlPlane

namespace Desk

theorem holder_attempt (d : Desk) (t : Terms) (parcel : Parcel)
    (outcome : Except ChannelError Unit) : (d.attempt t parcel outcome).1.holder = d.holder := by
  rcases d.attempt_cases t parcel outcome with ⟨-, h⟩ | ⟨e, -, h⟩ | ⟨e, reason, -, -, h⟩
  · rw [h, holder_conclude, holder_receive]
  · rw [h]
  · rw [h, holder_conclude]

end Desk

namespace Floor

variable {c : Collaborators} {plan : Plan} {F G : Floor} {ds : List Deed}

/-- What every step of the floor preserves. -/
theorem Locks.step (h : F.Locks) (hs : Floor.Step c plan F ds G) : G.Locks := by
  cases hs with
  | quiet => exact h
  | take hp free hout => exact h.take hp free hout
  | enter free hholding =>
    have hhas : (F.standing .runner).hasPipeline = true := by rw [hholding]; rfl
    exact (h.seat free fun _ => hhas).stay rfl
  | abandon hpreparing => exact (h.seated (by rw [hpreparing]; rfl)).leave rfl
  | initial queries hpreparing => exact (h.seated (by rw [hpreparing]; rfl)).compile ..
  | @refuse i free hholding hinit =>
    have hhas : (F.standing (.caller i)).hasPipeline = true := by rw [hholding]; rfl
    exact (h.seat free fun _ => hhas).leave rfl
  | @refinement i queries free hholding hinit =>
    have hhas : (F.standing (.caller i)).hasPipeline = true := by rw [hholding]; rfl
    exact (h.seat free fun _ => hhas).compile ..
  | approach event free =>
    exact (h.seat (p := .listener) free fun hne => absurd rfl hne).settle _
  | @attempt p parcel outcome hsending =>
    have hseated : F.Seated p := h.seated (by rw [hsending]; rfl)
    have hholder := (F.desk.holder_attempt plan.terms parcel outcome).trans hseated.desk
    -- The attempt changes what has been received, and not who is at the desk.
    have hstill : Seated { F with desk := (F.desk.attempt plan.terms parcel outcome).1 } p :=
      ⟨hholder, hseated.away, hseated.pipeline, hseated.own⟩
    exact hstill.settle _
  | stop hsending => exact (h.seated (by rw [hsending]; rfl)).leave rfl
  | close hserved => exact h.close hserved

/-- Parties that hold what they held may be called otherwise. -/
theorem Locks.of_same (h : F.Locks) (hholder : G.holder = F.holder)
    (hdesk : G.desk.holder = F.desk.holder)
    (hsame : ∀ p, (G.standing p).hasPipeline = (F.standing p).hasPipeline ∧
      (G.standing p).isAtDesk = (F.standing p).isAtDesk) : G.Locks where
  pipeline p := by
    rw [hholder, (hsame p).1]
    exact h.pipeline p
  desk p := by
    rw [hdesk, (hsame p).2]
    exact h.desk p

end Floor

namespace Orchestration

/-- What may come of a new control plane that is run once or again and again, where `d` is the desk
that it was given. The collaborators may answer differently at each move. -/
inductive Arises (plan : Plan) (d : Desk) : Orchestration → Prop
  | new (free : d.holder = none) : Arises plan d { desk := d }
  | begin {o q : Orchestration} (queries : List LogicalQuery) (workers : List PendingWorker) :
      Arises plan d o → o.begin queries workers = some q → Arises plan d q
  | move {o q : Orchestration} {c : Collaborators} (m : Move) :
      Arises plan d o → o.next c plan m = some q → Arises plan d q

/-- What may come of a control plane without another run, with collaborators that may answer
differently at each move. -/
inductive Leads (plan : Plan) (o : Orchestration) : Orchestration → Prop
  | refl : Leads plan o o
  | tail {p q : Orchestration} {c : Collaborators} (m : Move) :
      Leads plan o p → p.next c plan m = some q → Leads plan o q

variable {c : Collaborators} {plan : Plan} {d : Desk} {o q : Orchestration} {r : Run}

/-- A run that has ended holds nothing, and its listener is not at the desk. -/
theorem away_of_ended (h : r.Attended) (hended : r.outcome?.isSome = true) :
    r.tokens? = none ∧ r.phase.standing.hasPipeline = false ∧
      r.listener.phase.standing.hasPipeline = false := by
  obtain ⟨outcome, houtcome⟩ := Option.isSome_iff_exists.1 hended
  have hphase := Run.phase_of_outcome? houtcome
  have hnone : r.tokens? = none := by simp [Run.tokens?, hphase]
  refine ⟨hnone, ?_, ?_⟩
  · rw [hphase]
    cases outcome with
    | ok u => rfl
    | error e => exact e.hasPipeline_standing
  · rcases h.absent hnone with hlistener | ⟨-, hover⟩
    · rw [hlistener]
      rfl
    · obtain ⟨last, hlast⟩ := Listener.phase_of_hasEnded hover
      rw [hlast]
      unfold Listener.Phase.standing
      split
      · next heq => cases heq
      · rfl
      · rfl

theorem begin_cases {queries : List LogicalQuery} {workers : List PendingWorker}
    (h : o.begin queries workers = some q) :
    (∀ r, o.run = some r → r.outcome?.isSome = true) ∧
      q = { o with run := some { queries, workers } } := by
  unfold begin at h
  split at h
  · next hover =>
    obtain rfl := Option.some.inj h
    refine ⟨fun r hr => ?_, rfl⟩
    rw [hr] at hover
    exact hover
  · cases h

/-- When a run begins, everybody holds what they held. -/
theorem locks_begin (h : o.floor.Locks) (hattended : o.Attended) {queries : List LogicalQuery}
    {workers : List PendingWorker} (hbegin : o.begin queries workers = some q) : q.floor.Locks := by
  obtain ⟨hover, rfl⟩ := begin_cases hbegin
  -- The runner and the listener of the run before had nothing any more.
  have hnothing : (o.standing .runner).hasPipeline = false ∧
      (o.standing .listener).hasPipeline = false := by
    cases hr : o.run with
    | none => simp [standing, hr]
    | some r =>
      rw [standing_runner hr, standing_listener hr]
      exact (away_of_ended (hattended r hr) (hover r hr)).2
  refine h.of_same rfl rfl fun p => ?_
  cases p with
  | runner => exact ⟨hnothing.1.symm, (Standing.isAtDesk_of_hasPipeline hnothing.1).symm⟩
  | listener => exact ⟨hnothing.2.symm, (Standing.isAtDesk_of_hasPipeline hnothing.2).symm⟩
  | caller i => exact ⟨rfl, rfl⟩

namespace Leads

theorem trans {p : Orchestration} (h : Leads plan o p) (hq : Leads plan p q) : Leads plan o q := by
  induction hq with
  | refl => exact h
  | tail m _ hnext ih => exact ih.tail m hnext

theorem of_replay {moves : List Move} (h : o.replay c plan moves = some q) : Leads plan o q := by
  induction moves generalizing o with
  | nil =>
    cases h
    exact .refl
  | cons m rest ih =>
    obtain ⟨p, hnext, hrest⟩ := Option.bind_eq_some_iff.1 h
    exact (Leads.refl.tail m hnext).trans (ih hrest)

end Leads

namespace Arises

theorem of_leads (h : Arises plan d o) (hq : Leads plan o q) : Arises plan d q := by
  induction hq with
  | refl => exact h
  | tail m _ hnext ih => exact ih.move m hnext

theorem of_replay (h : Arises plan d o) {moves : List Move}
    (hq : o.replay c plan moves = some q) : Arises plan d q :=
  h.of_leads (.of_replay hq)

theorem attended (h : Arises plan d o) : o.Attended := by
  induction h with
  | new =>
    intro r hr
    cases hr
  | begin queries workers _ hbegin =>
    obtain ⟨-, rfl⟩ := begin_cases hbegin
    exact attended_of_run rfl ⟨trivial, nofun, fun _ => .inl rfl⟩
  | move m _ hnext ih => exact attended_next ih hnext

/-- Where the parties stand is where the pipeline and the desk say they are. -/
theorem locks (h : Arises plan d o) : o.floor.Locks := by
  induction h with
  | new free =>
    have hout : ∀ p, ({ desk := d } : Orchestration).floor.standing p = .outside := by
      intro p
      cases p <;> rfl
    constructor
    · intro p
      rw [hout]
      simp [floor]
    · intro p
      rw [hout]
      simp [floor, free]
  | begin queries workers hbefore hbegin ih => exact locks_begin ih hbefore.attended hbegin
  | move m _ hnext ih => exact ih.step (step_of_next hnext)

end Arises

end Orchestration

end ControlPlane
