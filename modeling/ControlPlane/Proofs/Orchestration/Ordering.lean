import ControlPlane.Proofs.Orchestration.Unfolding

/-!
# The order of messages

Whatever order the runner, the callers, the output listener, the workers and the surroundings move
in, and however deliveries turn out, the managers receive the messages of the control plane in an
order that makes sense to them.

## Main definitions

- `Orchestration.Orderly`: what can be relied on at any time.

## Main statements

- `Orchestration.Unfolds.orderly`: it can be relied on.
-/

namespace ControlPlane

open History

namespace Floor

variable {F G : Floor} {p : Party} {progress : Parcel.Progress}

@[simp] theorem pipeline_settle : (F.settle p progress).pipeline = F.pipeline := by
  cases progress <;> rfl

@[simp] theorem fabric_settle : (F.settle p progress).desk.fabric = F.desk.fabric := by
  cases progress <;> rfl

@[simp] theorem streaming_settle : (F.settle p progress).desk.streaming = F.desk.streaming := by
  cases progress <;> rfl

/-- A step that adds nothing to the history leaves the pipeline as it is, and no manager receives
anything. -/
theorem Step.unchanged {c : Collaborators} {plan : Plan} {ds : List Deed}
    (h : Floor.Step c plan F ds G) (hds : ds = []) :
    G.pipeline = F.pipeline ∧ G.desk.fabric = F.desk.fabric ∧
      G.desk.streaming = F.desk.streaming := by
  cases h with
  | quiet => exact ⟨rfl, rfl, rfl⟩
  | take => exact ⟨rfl, rfl, rfl⟩
  | enter => exact ⟨rfl, rfl, rfl⟩
  | abandon => exact ⟨rfl, rfl, rfl⟩
  | initial => cases hds
  | refuse => exact ⟨rfl, rfl, rfl⟩
  | refinement => cases hds
  | approach =>
    rw [pipeline_settle, fabric_settle, streaming_settle]
    exact ⟨rfl, rfl, rfl⟩
  | @attempt p parcel outcome =>
    rw [pipeline_settle, fabric_settle, streaming_settle]
    rcases F.desk.attempt_cases plan.terms parcel outcome with
      ⟨rfl, -⟩ | ⟨e, rfl, hattempt⟩ | ⟨e, reason, rfl, -, hattempt⟩
    · cases hds
    · rw [hattempt]
      exact ⟨rfl, rfl, rfl⟩
    · rw [hattempt]
      exact ⟨rfl, rfl, rfl⟩
  | stop => exact ⟨rfl, rfl, rfl⟩
  | close => exact ⟨rfl, rfl, rfl⟩

end Floor

namespace Orchestration

/-- What can be relied on at any time; `h` is the history. -/
structure Orderly (plan : Plan) (h : List Deed) (o : Orchestration) : Prop where
  /-- The history says what the managers have received, in order. -/
  fabric : o.desk.fabric = forFabric (messages h)
  streaming : o.desk.streaming = forStreaming (messages h)
  /-- It says which ids have been handed out, and which of them the pipeline has kept. -/
  numbered : o.pipeline.Numbered (given h)
  committed : Pipeline.ids o.pipeline.data = kept h
  /-- And nothing of this changes without a deed. -/
  accounted : ∀ (c : Collaborators) (m : Move) (q : Orchestration), o.next c plan m = some q →
    o.deeds c plan m = [] → q.pipeline = o.pipeline ∧ q.desk.fabric = o.desk.fabric ∧
      q.desk.streaming = o.desk.streaming
  /-- The fabric manager receives no change before the initial configuration. -/
  initFirst : o.desk.fabric = [] ∨ InitThenDeltas o.desk.fabric
  /-- If the initial configuration is delivered, no event has been refused for want of it. -/
  events : ∀ queries r, .init queries ∈ o.desk.fabric → o.run = some r →
    r.listener.phase ≠ .ended (.error (.forward .notInitialized))
  /-- A caller who was told that it is missing has no part in the history. -/
  refused : ∀ i x, o.callers[i]? = some x →
    x.answer? = some (.error (.distributor .notInitialized)) → ∀ d ∈ h, d.party ≠ .caller i
  /-- The ids that the fabric manager has received are in the order in which they were handed out.
  They increase strictly, as long as the row of ids has not come round. -/
  inOrder : (fabricIds o.desk.fabric).Sublist (given h)
  increasing : (given h).length < UInt64.size - 1 → (fabricIds o.desk.fabric).Pairwise (· < ·)
  /-- Each configuration of the streaming manager continues those before it. -/
  growing : (configs o.desk.streaming).Pairwise (· <+: ·)
  /-- Between the deeds of a pass nobody else does anything. -/
  oneGo : ∀ p, p ≠ .listener → InOneGo h p

namespace Unfolds

variable {plan : Plan} {h : List Deed} {o : Orchestration}

/-- No event is refused for want of an initial configuration that is delivered in the end. -/
theorem events_accepted (hu : Unfolds plan h o) {queries : List CompiledQuery} {r : Run}
    (hinit : .init queries ∈ o.desk.fabric) (hr : o.run = some r) :
    r.listener.phase ≠ .ended (.error (.forward .notInitialized)) := by
  intro hphase
  have hrefused : o.floor.standing .listener = .refused := by
    simp [floor, standing, hr, hphase, Listener.Phase.standing]
  -- A refused listener rules the initial configuration out, before and after.
  have hsent := ((hu.kept.fits .listener).late rfl hrefused).2
  have hnone : o.desk.fabric = [] :=
    hu.kept.books.fabric.trans (hu.kept.books.accounts.silent hsent)
  rw [hnone] at hinit
  cases hinit

/-- A caller who was refused for want of the initial configuration has done nothing. -/
theorem refused_idle (hu : Unfolds plan h o) {i : Nat} {x : Caller} (hx : o.callers[i]? = some x)
    (hanswer : x.answer? = some (.error (.distributor .notInitialized))) :
    ∀ d ∈ h, d.party ≠ .caller i := by
  have hphase : x.phase = .ended (.error (.distributor .notInitialized)) := by
    unfold Caller.answer? at hanswer
    split at hanswer
    · next hended => rw [hended, Option.some.inj hanswer]
    · cases hanswer
  have hrefused : o.floor.standing (.caller i) = .refused := by
    simp [floor, standing, hx, hphase, Caller.Phase.standing, OrchestrationError.standing]
  exact (hu.kept.fits (.caller i)).fresh (by simp) (by rw [hrefused]; rfl)

/-- Whatever order the parties move in, however deliveries turn out, and whatever the collaborators
answer: the messages to the managers are in order. -/
theorem orderly (hu : Unfolds plan h o) : o.Orderly plan h := by
  have hbooks : Books h o.pipeline o.desk := hu.kept.books
  have hfabric : fabricIds o.desk.fabric = opened h := by
    rw [hbooks.fabric, fabricIds_forFabric, hbooks.taken]
  have hinOrder : (fabricIds o.desk.fabric).Sublist (given h) := by
    rw [hfabric]
    refine (keptBy_sublist _ h).trans ?_
    rw [← hbooks.committed]
    exact hbooks.numbered.kept
  refine
    { fabric := hbooks.fabric, streaming := hbooks.streaming, numbered := hbooks.numbered
      committed := hbooks.committed, accounted := ?_, initFirst := ?_
      events := fun queries r hinit hr => hu.events_accepted hinit hr
      refused := fun i x hx hanswer => hu.refused_idle hx hanswer
      inOrder := hinOrder, increasing := ?_, growing := ?_, oneGo := hbooks.oneGo }
  · intro c m q hnext hnone
    exact (step_of_next hnext).unchanged hnone
  · rw [hbooks.fabric]
    by_cases hsent : o.desk.distributor.initial = .sent
    · exact .inr (hbooks.accounts.opened hsent)
    · exact .inl (hbooks.accounts.silent hsent)
  · intro room
    exact (hbooks.numbered.pairwise_lt room).sublist hinOrder
  · rw [hbooks.streaming, configs_forStreaming]
    exact hbooks.growing

/-- Somebody asks for a refinement before there is a run. -/
def tooEarly : List Move := [.call [ddos], .proceed 0, .proceed 0]

/-- Whoever asked too early. -/
def refusedCaller : Caller := ⟨[ddos], .ended (.error (.distributor .notInitialized))⟩

/-- The run comes up with one failed attempt, and somebody asks for a refinement again. -/
def inTime : List Move :=
  comingUp ++ [.deliver nobodyThere, .deliver (.ok ()), .deliver (.ok ()), .call [ddos],
    .proceed 1, .proceed 1, .send 1 (.ok ()), .send 1 (.ok ())]

/-- The first request is refused and the second one is granted, with all ids in order. -/
theorem orderly_refused_then_granted : ∃ h o, Unfolds twoAttempts h o ∧
    (∃ x, o.callers[0]? = some x ∧
      x.answer? = some (.error (.distributor .notInitialized))) ∧
    fabricIds o.desk.fabric = [1, 2, 3] ∧ o.Orderly twoAttempts h := by
  have hearly : ({} : Orchestration).replay .reference twoAttempts tooEarly =
      some { callers := [refusedCaller] } := by
    decide +kernel
  have htags := Collaborators.reference_tags
  have hbegun := (fresh.of_replay htags hearly).begin [scan] [] rfl rfl
  have hfacts : (replay .reference twoAttempts
      { callers := [refusedCaller], run := some { queries := [scan], workers := [] } } inTime).map
        (fun o => (o.callers[0]?, fabricIds o.desk.fabric)) =
          some (some refusedCaller, [1, 2, 3]) := by
    decide +kernel
  obtain ⟨o, ho, hfacts⟩ := Option.map_eq_some_iff.1 hfacts
  obtain ⟨hcaller, hids⟩ := Prod.mk.inj hfacts
  have hu := hbegun.of_replay htags ho
  exact ⟨_, o, hu, ⟨refusedCaller, hcaller, rfl⟩, hids, orderly hu⟩

end Unfolds

end Orchestration

end ControlPlane
