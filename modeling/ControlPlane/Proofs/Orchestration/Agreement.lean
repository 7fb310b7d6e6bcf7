import ControlPlane.Proofs.Orchestration.Unfolding

/-!
# Whether the planes agree

The streaming manager is sent everything that has been kept so far, and the fabric manager what is
new. So the two planes agree after a call, unless an earlier call has kept queries and then failed
before the fabric manager had received them.

## Main definitions

- `Orchestration.Returns`: a call returns without an error.
- `Orchestration.HasFailed`: a call has returned with an error, or is about to.
- `Orchestration.PlanesAgree`: both managers have the same ids.
- `Orchestration.Agreement`: how the planes stand to each other when a call returns.

## Main statements

- `Orchestration.Unfolds.agreement`: so they do.
- `Orchestration.Unfolds.disagreement_after_lost_delta`: they need not agree.
-/

namespace ControlPlane

open History

/-- What some passes have kept is all that was kept just if the others have kept nothing. -/
theorem History.keptBy_eq_kept_iff (f : Party → Bool) (h : List Deed) :
    keptBy f h = kept h ↔ ∀ d ∈ h, f d.party = false → d.kept = [] := by
  induction h with
  | nil => simp [keptBy, kept]
  | cons d rest ih =>
    have hkeptBy : keptBy f (d :: rest) = (if f d.party then d.kept else []) ++ keptBy f rest :=
      List.flatMap_cons
    have hkept : kept (d :: rest) = d.kept ++ kept rest := List.flatMap_cons
    rw [hkeptBy, hkept, List.forall_mem_cons]
    cases hf : f d.party with
    | true => simpa using ih
    | false =>
      constructor
      · intro heq
        -- The part cannot be longer than the whole.
        have hlength := (keptBy_sublist f rest).length_le
        have hsum := congrArg List.length heq
        simp only [Bool.false_eq_true, if_false, List.nil_append, List.length_append] at hsum
        have hnone : d.kept = [] := List.length_eq_zero_iff.1 (by omega)
        refine ⟨fun _ => hnone, ih.1 ?_⟩
        simpa [hnone] using heq
      · rintro ⟨hnone, hrest⟩
        simpa [hnone rfl] using ih.2 hrest

/-- A delivery that has a message to begin with is not over well. -/
theorem Desk.begin_ne_ok (d : Desk) (o : Outgoing) (rest : List Outgoing) :
    d.begin (o :: rest) ≠ .over (.ok ()) := by
  rw [begin]
  split <;> simp

namespace Floor

variable {F G : Floor} {p q : Party} {s : Standing}

/-- Nobody is served by moving elsewhere. -/
theorem served_of_move (hs : s ≠ .served) (h : (F.move q s).standing p = .served) :
    F.standing p = .served := by
  by_cases hpq : p = q
  · subst hpq
    rw [standing_move_self] at h
    exact absurd h hs
  · rwa [standing_move_of_ne hpq] at h

/-- Whoever is served after some progress either was so before, or has delivered everything now. -/
theorem served_of_settle {progress : Parcel.Progress}
    (h : (F.settle q progress).standing p = .served) :
    F.standing p = .served ∨ p = q ∧ q ≠ .listener ∧ progress = .over (.ok ()) := by
  by_cases hpq : p = q
  · subst hpq
    rcases progress with parcel | outcome
    · rw [settle, standing_move_self] at h
      cases h
    · rw [settle, standing_move_self, resting.eq_def] at h
      cases outcome with
      | ok _ =>
        refine .inr ⟨rfl, ?_, rfl⟩
        rintro rfl
        cases h
      | error e =>
        simp only at h
        split at h
        · cases h
        · split at h <;> cases h
  · rcases progress with parcel | outcome
    · rw [settle, standing_move_of_ne hpq] at h
      exact .inl h
    · rw [settle, standing_move_of_ne hpq] at h
      exact .inl h

/-- Nobody is served by having queries compiled. -/
theorem served_of_compile {c : Collaborators} {plan : Plan} {queries : List LogicalQuery}
    {messages : Pass → Pipeline → List Outgoing}
    (hmessages : ∀ pass r, ∃ o rest, messages pass r = o :: rest)
    (h : (F.compile c plan q queries messages).standing p = .served) :
    F.standing p = .served := by
  unfold compile at h
  split at h
  · exact served_of_move (s := .gone) (by simp) h
  · next pass r _ =>
    obtain ⟨o, rest, hfirst⟩ := hmessages pass r
    rw [hfirst] at h
    rcases served_of_settle h with hserved | ⟨-, -, hover⟩
    · exact hserved
    · exact absurd hover (F.desk.begin_ne_ok o rest)

/-- Whoever is served by a step has just had its configuration for the streaming manager delivered,
which holds everything that has been kept, and has left the desk. -/
theorem Kept.served {c : Collaborators} {plan : Plan} {h ds : List Deed} (hk : F.Kept h)
    (hstep : Floor.Step c plan F ds G) (hbefore : F.standing p ≠ .served)
    (hafter : G.standing p = .served) :
    ds = [.delivered p (.streamConfig F.pipeline.stream)] ∧ G.pipeline = F.pipeline ∧
      G.desk.holder = none := by
  cases hstep with
  | quiet => exact absurd hafter hbefore
  | take => exact absurd (served_of_move (s := .holding) (by simp) hafter) hbefore
  | enter => exact absurd (served_of_move (s := .preparing) (by simp) hafter) hbefore
  | abandon => exact absurd (served_of_move (s := .gone) (by simp) hafter) hbefore
  | initial => exact absurd (served_of_compile (fun _ _ => ⟨_, _, rfl⟩) hafter) hbefore
  | refuse => exact absurd (served_of_move (s := .refused) (by simp) hafter) hbefore
  | refinement => exact absurd (served_of_compile (fun _ _ => ⟨_, _, rfl⟩) hafter) hbefore
  | approach =>
    rcases served_of_settle hafter with hserved | ⟨-, hlistener, -⟩
    · exact absurd hserved hbefore
    · exact absurd rfl hlistener
  | @attempt p' parcel outcome hs =>
    rcases served_of_settle hafter with hserved | ⟨rfl, hlistener, hover⟩
    · exact absurd hserved hbefore
    · rcases F.desk.attempt_cases plan.terms parcel outcome with
        ⟨rfl, hattempt⟩ | ⟨e, rfl, hattempt⟩ | ⟨e, reason, rfl, -, hattempt⟩
      · rw [hattempt] at hover ⊢
        cases ((hk.fits p).due parcel hs).1 with
        | event => exact absurd rfl hlistener
        | opening =>
          simp only at hover
          exact absurd hover (Desk.begin_ne_ok _ _ _)
        | config => exact ⟨rfl, rfl, rfl⟩
      · rw [hattempt] at hover
        cases hover
      · rw [hattempt] at hover
        cases hover
  | stop => exact absurd (served_of_move (s := .outside) (by simp) hafter) hbefore
  | close => exact absurd (served_of_move (s := .gone) (by simp) hafter) hbefore

end Floor

namespace Orchestration

/-- A party's call returns without an error by a move from `o` to `q`: the initial configuration is
out, or a refinement is answered with what it has compiled. -/
def Returns (o q : Orchestration) (p : Party) : Prop :=
  o.standing p ≠ .served ∧ q.standing p = .served

/-- A party's call has returned with an error, or will when the workers have stopped. -/
def HasFailed (o : Orchestration) : Party → Prop
  | .runner => ∃ r e, o.run = some r ∧
      ((∃ s, r.phase = .failing e s ∨ r.phase = .stopping e s) ∨ r.phase = .ended (.error e))
  | .listener => False
  | .caller i => ∃ x e, o.callers[i]? = some x ∧ x.answer? = some (.error e)

/-- Whoever is gone has failed. -/
theorem hasFailed_of_gone {o : Orchestration} {p : Party} (h : o.standing p = .gone) :
    o.HasFailed p := by
  cases p with
  | runner =>
    cases hr : o.run with
    | none => simp [standing, hr] at h
    | some r =>
      have hgone : r.phase.standing = .gone := by simpa [standing, hr] using h
      cases hphase : r.phase with
      | failing e s => exact ⟨r, e, hr, .inl ⟨s, .inl hphase⟩⟩
      | stopping e s => exact ⟨r, e, hr, .inl ⟨s, .inr hphase⟩⟩
      | ended outcome =>
        cases outcome with
        | ok _ => simp [hphase, Run.Phase.standing] at hgone
        | error e => exact ⟨r, e, hr, .inr hphase⟩
      | _ => simp [hphase, Run.Phase.standing] at hgone
  | listener =>
    cases hr : o.run with
    | none => simp [standing, hr] at h
    | some r =>
      have hgone : r.listener.phase.standing = .gone := by simpa [standing, hr] using h
      unfold Listener.Phase.standing at hgone
      split at hgone <;> cases hgone
  | caller i =>
    cases hx : o.callers[i]? with
    | none => simp [standing, hx] at h
    | some x =>
      have hgone : x.phase.standing = .gone := by simpa [standing, hx] using h
      cases hphase : x.phase with
      | ended outcome =>
        cases outcome with
        | ok _ => simp [hphase, Caller.Phase.standing] at hgone
        | error e => exact ⟨x, e, hx, by simp [Caller.answer?, hphase]⟩
      | _ => simp [hphase, Caller.Phase.standing] at hgone

/-- The fabric manager has the ids that the streaming manager was sent last, in the same order. -/
def PlanesAgree (o : Orchestration) : Prop :=
  (configs o.desk.streaming).getLast?.map Pipeline.ids = some (fabricIds o.desk.fabric)

/-- How the planes stand to each other when a call has just returned without an error; `h` is the
history. -/
structure Agreement (h : List Deed) (o : Orchestration) : Prop where
  /-- The streaming manager has been sent all that has been kept by any pass. -/
  streaming : (configs o.desk.streaming).getLast? = some o.pipeline.stream
  all : Pipeline.ids o.pipeline.stream = kept h
  /-- The fabric manager has what was kept by the passes whose first message it has received. -/
  fabric : fabricIds o.desk.fabric = opened h
  /-- Every other pass belongs to a call that has failed. -/
  failed : ∀ d ∈ h, d.party ≠ .listener → hasOpened h d.party = false → o.HasFailed d.party
  /-- So the planes agree just if such passes have kept nothing. -/
  agree_iff : o.PlanesAgree ↔ ∀ d ∈ h, hasOpened h d.party = false → d.kept = []

namespace Unfolds

variable {plan : Plan} {c : Collaborators} {h : List Deed} {o q : Orchestration} {p : Party}

/-- Whenever a call returns without an error, the planes agree apart from what was kept by calls
that have failed before their first message was received. -/
theorem agreement (hu : Unfolds plan h o) (tags : c.Tags) {m : Move}
    (hnext : o.next c plan m = some q) (hreturns : o.Returns q p) :
    q.Agreement (h ++ o.deeds c plan m) := by
  have hq := hu.move tags m hnext
  have hbooks : Books (h ++ o.deeds c plan m) q.pipeline q.desk := hq.kept.books
  obtain ⟨hdeeds, hpipeline, hleft⟩ :=
    hu.kept.served (step_of_next hnext) hreturns.1 hreturns.2
  have hall : Pipeline.ids q.pipeline.stream = History.kept (h ++ o.deeds c plan m) :=
    hbooks.numbered.matched.symm.trans hbooks.committed
  have hfabric : fabricIds q.desk.fabric = opened (h ++ o.deeds c plan m) := by
    rw [hbooks.fabric, fabricIds_forFabric, hbooks.taken]
  have hlast : (configs q.desk.streaming).getLast? = some q.pipeline.stream := by
    have hsame : q.pipeline = o.pipeline := hpipeline
    rw [hbooks.streaming, configs_forStreaming, hdeeds, messages_append, configs_append, hsame]
    exact List.getLast?_concat
  refine { streaming := hlast, all := hall, fabric := hfabric, failed := ?_, agree_iff := ?_ }
  · intro d hd hlistener hunopened
    refine hasFailed_of_gone ?_
    rcases (hq.kept.fits d.party).unopened hlistener with hgone | hat | hopened
    · exact hgone
    · -- Whoever has just been served has left the desk, so nobody is there.
      have hheld := (hq.kept.locks.desk d.party).2 hat
      rw [hleft] at hheld
      cases hheld
    · rw [hopened d hd rfl] at hunopened
      cases hunopened
  · rw [PlanesAgree, hlast, Option.map_some, Option.some_inj, hall, hfabric, eq_comm]
    exact keptBy_eq_kept_iff ..

/-- A run that is under way. -/
def underWay : Orchestration := { run := some { queries := [scan], workers := [] } }

/-- Whether a party is served before and after one more move than `moves`, and the ids that the
managers have been sent then. -/
def lookAt (moves : List Move) (m : Move) (p : Party) :
    Option (Bool × Bool × List QueryId × Option (List QueryId)) :=
  (underWay.replay .reference twoAttempts moves).bind fun o =>
    (o.next .reference twoAttempts m).map fun q =>
      (o.standing p = .served, q.standing p = .served, fabricIds q.desk.fabric,
        (configs q.desk.streaming).getLast?.map Pipeline.ids)

/-- If somebody is served by a move only, that is what the move returns. -/
theorem of_lookAt {moves : List Move} {m : Move} {fabric : List QueryId}
    {streaming : Option (List QueryId)}
    (hfacts : lookAt moves m p = some (false, true, fabric, streaming)) :
    ∃ h o q, Unfolds twoAttempts h o ∧ o.next .reference twoAttempts m = some q ∧
      o.Returns q p ∧ fabricIds q.desk.fabric = fabric ∧
      (configs q.desk.streaming).getLast?.map Pipeline.ids = streaming := by
  have hbegun : Unfolds twoAttempts [] underWay := fresh.begin [scan] [] rfl rfl
  obtain ⟨o, ho, hfacts⟩ := Option.bind_eq_some_iff.1 hfacts
  obtain ⟨q, hq, hfacts⟩ := Option.map_eq_some_iff.1 hfacts
  simp only [Prod.mk.injEq, decide_eq_false_iff_not, decide_eq_true_eq] at hfacts
  obtain ⟨hbefore, hafter, hfabric, hstreaming⟩ := hfacts
  have hu := hbegun.of_replay Collaborators.reference_tags ho
  exact ⟨_, o, q, hu, hq, ⟨hbefore, hafter⟩, hfabric, hstreaming⟩

/-- The initial configuration goes out, and a refinement is requested. -/
def requested : List Move :=
  comingUp ++ [.deliver (.ok ()), .deliver (.ok ()), .call [ddos], .proceed 0, .proceed 0]

/-- When nothing has failed, the planes agree after a refinement. -/
theorem agreement_after_refinement : ∃ h o q, Unfolds twoAttempts h o ∧
    o.next .reference twoAttempts (.send 0 (.ok ())) = some q ∧ o.Returns q (.caller 0) ∧
    q.Agreement (h ++ o.deeds .reference twoAttempts (.send 0 (.ok ()))) ∧ q.PlanesAgree := by
  have hfacts : lookAt (requested ++ [.send 0 (.ok ())]) (.send 0 (.ok ())) (.caller 0) =
      some (false, true, [1, 2, 3], some [1, 2, 3]) := by
    decide +kernel
  obtain ⟨h, o, q, hu, hq, hreturns, hfabric, hstreaming⟩ := of_lookAt hfacts
  refine ⟨h, o, q, hu, hq, hreturns, ?_, ?_⟩
  · exact agreement hu Collaborators.reference_tags hq hreturns
  · rw [PlanesAgree, hstreaming, hfabric]

/-- The change of a refinement is lost, and another refinement is requested. -/
def lost : List Move :=
  requested ++ [.send 0 nobodyThere, .send 0 nobodyThere, .call [ddos], .proceed 1, .proceed 1,
    .send 1 (.ok ())]

/-- The queries of a lost change stay on the streaming manager's side alone, so that the planes do
not agree after the next refinement. -/
theorem disagreement_after_lost_delta : ∃ h o q, Unfolds twoAttempts h o ∧
    o.next .reference twoAttempts (.send 1 (.ok ())) = some q ∧ o.Returns q (.caller 1) ∧
    fabricIds q.desk.fabric = [1, 4, 5] ∧
    (configs q.desk.streaming).getLast?.map Pipeline.ids = some [1, 2, 3, 4, 5] ∧
    ¬ q.PlanesAgree := by
  have hfacts : lookAt lost (.send 1 (.ok ())) (.caller 1) =
      some (false, true, [1, 4, 5], some [1, 2, 3, 4, 5]) := by
    decide +kernel
  obtain ⟨h, o, q, hu, hq, hreturns, hfabric, hstreaming⟩ := of_lookAt hfacts
  refine ⟨h, o, q, hu, hq, hreturns, hfabric, hstreaming, ?_⟩
  rw [PlanesAgree, hstreaming, hfabric]
  decide

end Unfolds

end Orchestration

end ControlPlane
