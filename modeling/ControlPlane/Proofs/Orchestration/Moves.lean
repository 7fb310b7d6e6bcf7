import ControlPlane.Proofs.Orchestration.Floor

/-!
# The moves of a control plane, seen from the floor

## Main definitions

- `Orchestration.deeds`: what a move adds to the history of a control plane.

## Main statements

- `Orchestration.step_of_next`: every move of a control plane is a step of its floor.
-/

namespace ControlPlane

/-- A party that comes to the desk finds it free and is at it then. -/
theorem Desk.eq_of_take {d e : Desk} {p : Party} (h : d.take p = some e) :
    d.holder = none ∧ e = { d with holder := some p } := by
  unfold take at h
  split at h
  · next free =>
    cases h
    exact ⟨free, rfl⟩
  · cases h

/-- What the moves of the output listener and its readers come to at the desk. -/
theorem Listener.next_cases {t : Terms} {limit : Nat} {cancelled : Bool} {l l' : Listener}
    {d d' : Desk} {m : Listener.Move} (h : l.next t limit cancelled d m = some (l', d')) :
    (d' = d ∧ l'.phase.standing = l.phase.standing ∧ ∀ outcome, m ≠ .attempt outcome) ∨
      (∃ event, m = .approach ∧ d.holder = none ∧ l.phase.standing = .outside ∧
        (l', d') = l.progress { d with holder := some .listener } event
          (d.begin [.delta (.output event)])) ∨
      (∃ event parcel outcome, m = .attempt outcome ∧ l.phase = .sending event parcel ∧
        (l', d') = l.progress (d.attempt t parcel outcome).1 event
          (d.attempt t parcel outcome).2) ∨
      ∃ event parcel, m = .stop ∧ l.phase = .sending event parcel ∧
        l'.phase.standing = .outside ∧ d' = d.leave := by
  cases m with
  | accept transmission =>
    simp only [next] at h
    split at h
    · cases h
      exact .inl ⟨rfl, rfl, by simp⟩
    · cases h
  | read reader inTime =>
    simp only [next] at h
    split at h
    · cases h
      exact .inl ⟨rfl, rfl, by simp⟩
    · cases h
  | enqueue reader =>
    simp only [next] at h
    split at h
    · split at h
      · cases h
        exact .inl ⟨rfl, rfl, by simp⟩
      · split at h
        · cases h
          exact .inl ⟨rfl, rfl, by simp⟩
        · cases h
    · cases h
  | dequeue =>
    simp only [next] at h
    split at h
    · next hphase hqueue =>
      split at h
      · cases h
      · cases h
        exact .inl ⟨rfl, by rw [hphase]; rfl, by simp⟩
    · cases h
  | approach =>
    simp only [next] at h
    split at h
    · next event hphase =>
      split at h
      · cases h
      · obtain ⟨seated, hseated, hprogress⟩ := Option.map_eq_some_iff.1 h
        obtain ⟨free, rfl⟩ := Desk.eq_of_take hseated
        exact .inr (.inl ⟨event, rfl, free, by rw [hphase]; rfl, hprogress.symm⟩)
    · cases h
  | attempt outcome =>
    simp only [next] at h
    split at h
    · next event parcel hphase =>
      split at h
      · cases h
      · exact .inr (.inr (.inl ⟨event, parcel, outcome, rfl, hphase, (Option.some.inj h).symm⟩))
    · cases h
  | stop =>
    simp only [next] at h
    split at h
    · split at h
      · next hphase =>
        cases h
        exact .inl ⟨rfl, by rw [hphase]; rfl, by simp⟩
      · next event hphase =>
        cases h
        exact .inl ⟨rfl, by rw [hphase]; rfl, by simp⟩
      · next event parcel hphase =>
        cases h
        exact .inr (.inr (.inr ⟨event, parcel, rfl, hphase, rfl, rfl⟩))
      · cases h
    · cases h

namespace Orchestration

variable (c : Collaborators) (plan : Plan)

/-- The delivery that comes of a successful attempt of a party. -/
def delivery (o : Orchestration) (p : Party) : List Deed :=
  match o.standing p with
  | .sending parcel => [.delivered p parcel.message]
  | _ => []

/-- What a move adds to the history. -/
def deeds (o : Orchestration) : Move → List Deed
  | .advance _ =>
    match o.run with
    | some r =>
      match r.phase with
      | .starting b =>
        if b.phase = .ready then [.ofPass c plan o.pipeline .runner r.queries] else []
      | _ => []
    | none => []
  | .proceed i =>
    match o.callers[i]? with
    | some x =>
      if x.phase = .approaching ∧ o.desk.distributor.isInitialized = true then
        [.ofPass c plan o.pipeline (.caller i) x.queries]
      else []
    | none => []
  | .deliver (.ok ()) => o.delivery .runner
  | .send i (.ok ()) => o.delivery (.caller i)
  | .listen (.attempt (.ok ())) => o.delivery .listener
  | _ => []

section Views

variable {o : Orchestration} {r : Run} {i : Nat} {x : Caller}

/-- Another phase of the run is another standing of the runner. -/
theorem floor_enter (h : o.run = some r) (phase : Run.Phase) :
    (o.enter r phase).floor = o.floor.move .runner phase.standing := by
  simp only [floor, Floor.move, enter]
  congr 1
  funext p
  cases p <;> simp [standing, Function.update, h]

/-- Another phase of a caller is another standing of that caller. -/
theorem floor_setCaller (h : o.callers[i]? = some x) (phase : Caller.Phase) :
    (o.setCaller i x phase).floor = o.floor.move (.caller i) phase.standing := by
  simp only [floor, Floor.move, setCaller]
  congr 1
  funext p
  cases p with
  | runner => simp [standing]
  | listener => simp [standing]
  | caller j =>
    by_cases hj : j = i
    · subst hj
      simp [standing, (List.getElem?_eq_some_iff.1 h).1]
    · simp [standing, Function.update, hj, Ne.symm hj]

/-- A runner or caller who releases both gives up what it holds. -/
theorem floor_release {p : Party} (hp : p ≠ .listener) : o.release.floor = o.floor.vacate p := by
  simp only [floor, Floor.vacate, release, hp, if_false]
  rfl

@[simp] theorem standing_act (r : Run) (position : Nat) (event : Task.Event) :
    (r.act position event).phase.standing = r.phase.standing := by
  cases hphase : r.phase <;> simp [Run.act, hphase, Run.Phase.standing]

@[simp] theorem listener_act (r : Run) (position : Nat) (event : Task.Event) :
    (r.act position event).listener = r.listener := by
  cases hphase : r.phase <;> simp [Run.act, hphase]

/-- A run whose runner stands where it stood, with another listener at another desk. -/
theorem floor_listener (h : o.run = some r) {s : Run} (hphase : s.phase.standing = r.phase.standing)
    (desk : Desk) :
    ({ o with desk, run := some s } : Orchestration).floor =
      ({ o with desk } : Orchestration).floor.move .listener s.listener.phase.standing := by
  simp only [floor, Floor.move]
  congr 1
  funext p
  cases p <;> simp [standing, Function.update, h, hphase]

/-- A failed delivery leaves whoever was not the listener where the error says. -/
theorem standing_distributor {p : Party} (hp : p ≠ .listener) (e : DistributorError) :
    (OrchestrationError.distributor e).standing = Floor.resting p (.error e) := by
  cases e <;> simp [OrchestrationError.standing, Floor.resting, hp]

/-- What the runner's progress in sending comes to. -/
theorem floor_pushed (h : o.run = some r) (s : Supervision) (progress : Parcel.Progress) :
    (o.pushed r s progress).floor = o.floor.settle .runner progress := by
  rcases progress with parcel | outcome
  · exact floor_enter h (.pushing parcel s)
  · cases outcome with
    | ok _ =>
      rw [pushed, floor_enter (o := o.release) h, floor_release (p := .runner) (by simp)]
      rfl
    | error e =>
      rw [pushed, floor_enter (o := o.release) h, floor_release (p := .runner) (by simp),
        Run.Phase.standing, standing_distributor (p := .runner) (by simp)]
      rfl

/-- What the listener's progress in sending comes to. -/
theorem floor_progressed (h : o.run = some r) {s : Run}
    (hphase : s.phase.standing = r.phase.standing) {l : Listener} {desk d : Desk}
    {event : OutputEvent} {progress : Parcel.Progress}
    (hprogress : (s.listener, d) = l.progress desk event progress) :
    ({ o with desk := d, run := some s } : Orchestration).floor =
      ({ o with desk } : Orchestration).floor.settle .listener progress := by
  rw [floor_listener h hphase]
  rcases progress with parcel | outcome
  · obtain ⟨hlistener, rfl⟩ := Prod.mk.inj hprogress
    rw [hlistener]
    rfl
  · cases outcome with
    | ok _ =>
      obtain ⟨hlistener, rfl⟩ := Prod.mk.inj hprogress
      rw [hlistener]
      rfl
    | error e =>
      obtain ⟨hlistener, rfl⟩ := Prod.mk.inj hprogress
      rw [hlistener]
      cases e <;> rfl

/-- What a caller's progress in sending comes to. -/
theorem floor_refined (h : o.callers[i]? = some x) (pass : Pass) (progress : Parcel.Progress) :
    (o.refined i x pass progress).floor = o.floor.settle (.caller i) progress := by
  rcases progress with parcel | outcome
  · exact floor_setCaller h (.pushing pass parcel)
  · cases outcome with
    | ok _ =>
      rw [refined, floor_setCaller (o := o.release) h, floor_release (p := .caller i) (by simp)]
      rfl
    | error e =>
      rw [refined, floor_setCaller (o := o.release) h, floor_release (p := .caller i) (by simp),
        Caller.Phase.standing, standing_distributor (p := .caller i) (by simp)]
      rfl

/-- What the compilation of the runner's queries comes to. -/
theorem floor_push (h : o.run = some r) (s : Supervision) :
    (o.push c plan r s).floor = o.floor.compile c plan .runner r.queries Pass.initial := by
  unfold push Floor.compile
  rcases hrun : o.pipeline.run c plan.candidates r.queries with ⟨outcome, q⟩
  have hfloor : o.floor.pipeline.run c plan.candidates r.queries = (outcome, q) := hrun
  rw [hfloor]
  cases outcome with
  | error e =>
    simp only
    have hreleased : ({ o with pipeline := q } : Orchestration).release.run = some r := h
    rw [floor_enter hreleased, floor_release (p := .runner) (by simp)]
    rfl
  | ok pass => exact floor_pushed (o := { o with pipeline := q }) h s _

/-- A caller that comes to the desk after the initial configuration compiles its queries. -/
theorem floor_refine (h : o.callers[i]? = some x)
    (hinit : o.desk.distributor.isInitialized = true) :
    (o.refine c plan i x).floor =
      o.floor.compile c plan (.caller i) x.queries Pass.refinement := by
  unfold refine Floor.compile
  rw [if_pos hinit]
  rcases hrun : o.pipeline.run c plan.candidates x.queries with ⟨outcome, q⟩
  have hfloor : o.floor.pipeline.run c plan.candidates x.queries = (outcome, q) := hrun
  rw [hfloor]
  cases outcome with
  | error e =>
    have hreleased : ({ o with pipeline := q } : Orchestration).release.callers[i]? = some x := h
    simp only
    rw [floor_setCaller hreleased, floor_release (p := .caller i) (by simp)]
    rfl
  | ok pass => exact floor_refined (o := { o with pipeline := q }) h pass _

/-- A caller that comes to the desk before the initial configuration is refused. -/
theorem floor_refine_refused (h : o.callers[i]? = some x)
    (hinit : o.desk.distributor.isInitialized = false) :
    (o.refine c plan i x).floor = (o.floor.vacate (.caller i)).move (.caller i) .refused := by
  unfold refine
  rw [if_neg (by simp [hinit]), floor_setCaller (o := o.release) h,
    floor_release (p := .caller i) (by simp)]
  rfl

end Views

section Moves

variable {c plan} {o q : Orchestration} {r : Run} {i : Nat} {x : Caller}

/-- A step that changes nothing that is shared. -/
theorem step_of_floor_eq (h : q.floor = o.floor) : Floor.Step c plan o.floor [] q.floor := by
  rw [h]
  exact .quiet _

/-- The run moves on without a change in where the runner stands. -/
theorem floor_enter_same (h : o.run = some r) {phase : Run.Phase}
    (hphase : phase.standing = r.phase.standing) : (o.enter r phase).floor = o.floor := by
  have hstanding : o.floor.standing .runner = phase.standing := by
    simp [floor, standing, h, hphase]
  rw [floor_enter h, Floor.move, ← hstanding, Function.update_eq_self]

/-- The runner's own step. -/
theorem step_advance (hr : o.run = some r) {requestFirst : Bool}
    (h : o.advance c plan requestFirst r = some q) :
    Floor.Step c plan o.floor (o.deeds c plan (.advance requestFirst)) q.floor := by
  have hstanding : o.floor.standing .runner = r.phase.standing := by simp [floor, standing, hr]
  unfold advance at h
  split at h
  · next hphase =>
    split at h
    · next free =>
      cases h
      have hdeeds : o.deeds c plan (.advance requestFirst) = [] := by simp [deeds, hr, hphase]
      rw [hdeeds, floor_enter (o := { o with holder := some .runner }) hr]
      exact .take (by simp) free (by rw [hstanding, hphase]; rfl)
    · cases h
  · next hphase =>
    obtain ⟨desk, hdesk, rfl⟩ := Option.map_eq_some_iff.1 h
    obtain ⟨free, rfl⟩ := Desk.eq_of_take hdesk
    have hdeeds : o.deeds c plan (.advance requestFirst) = [] := by simp [deeds, hr, hphase]
    rw [hdeeds, floor_enter (o := { o with desk := { o.desk with holder := some .runner } }) hr]
    exact .enter free (by rw [hstanding, hphase]; rfl)
  · cases h
  · next b hphase =>
    have hpreparing : o.floor.standing .runner = .preparing := by rw [hstanding, hphase]; rfl
    split at h
    · next hready =>
      cases h
      have hdeeds : o.deeds c plan (.advance requestFirst) =
          [.ofPass c plan o.floor.pipeline .runner r.queries] := by
        simp [deeds, hr, hphase, hready, floor]
      rw [hdeeds, floor_push c plan hr]
      exact .initial r.queries hpreparing
    · next e hfailed =>
      cases h
      have hdeeds : o.deeds c plan (.advance requestFirst) = [] := by
        simp [deeds, hr, hphase, hfailed]
      rw [hdeeds, floor_enter (o := o.release) hr, floor_release (p := .runner) (by simp)]
      exact .abandon hpreparing
    · next hnotReady hnotFailed =>
      cases h
      have hdeeds : o.deeds c plan (.advance requestFirst) = [] := by
        simpa [deeds, hr, hphase] using hnotReady
      rw [hdeeds]
      exact step_of_floor_eq (floor_enter_same hr (by rw [hphase]; rfl))
  · cases h
  · next e s hphase =>
    cases h
    have hdeeds : o.deeds c plan (.advance requestFirst) = [] := by simp [deeds, hr, hphase]
    rw [hdeeds]
    exact step_of_floor_eq (floor_enter_same hr (by rw [hphase]; rfl))
  · next e s hphase =>
    obtain ⟨outcome, -, rfl⟩ := Option.map_eq_some_iff.1 h
    have hdeeds : o.deeds c plan (.advance requestFirst) = [] := by simp [deeds, hr, hphase]
    rw [hdeeds]
    exact step_of_floor_eq (floor_enter_same hr (by rw [hphase]; rfl))
  · next s hphase =>
    obtain ⟨outcome, -, rfl⟩ := Option.map_eq_some_iff.1 h
    have hdeeds : o.deeds c plan (.advance requestFirst) = [] := by simp [deeds, hr, hphase]
    rw [hdeeds]
    cases outcome with
    | ok _ => exact step_of_floor_eq (floor_enter_same hr (by rw [hphase]; rfl))
    | error e =>
      rw [floor_enter hr]
      exact .close (by rw [hstanding, hphase]; rfl)
  · cases h

/-- The address of the output listener is bound, or cannot be. -/
theorem step_bind (hr : o.run = some r) {outcome : Except SystemError Unit}
    (h : o.bind plan r outcome = some q) : Floor.Step c plan o.floor [] q.floor := by
  have hstanding : o.floor.standing .runner = r.phase.standing := by simp [floor, standing, hr]
  unfold bind at h
  split at h
  · next hphase =>
    cases h
    exact step_of_floor_eq (floor_enter_same hr (by rw [hphase]; rfl))
  · next e hphase =>
    cases h
    rw [floor_enter (o := o.release) hr, floor_release (p := .runner) (by simp)]
    exact .abandon (by rw [hstanding, hphase]; rfl)
  · cases h

/-- What an attempt adds to the history. -/
theorem deeds_attempt {p : Party} {parcel : Parcel} (h : o.standing p = .sending parcel)
    (outcome : Except ChannelError Unit) :
    Deed.ofAttempt p parcel outcome =
      match outcome with
      | .ok () => o.delivery p
      | .error _ => [] := by
  cases outcome with
  | ok _ => simp [Deed.ofAttempt, delivery, h]
  | error e => rfl

/-- An attempt takes the floor to what the desk and the progress come to. -/
theorem step_attempt {p : Party} {parcel : Parcel} (hsending : o.standing p = .sending parcel)
    {outcome : Except ChannelError Unit} {desk : Desk} {progress : Parcel.Progress}
    (hattempt : o.desk.attempt plan.terms parcel outcome = (desk, progress)) :
    Floor.Step c plan o.floor (Deed.ofAttempt p parcel outcome)
      (({ o with desk } : Orchestration).floor.settle p progress) := by
  have hstep : Floor.Step c plan o.floor _ _ := .attempt outcome hsending
  have hfloor : o.floor.desk.attempt plan.terms parcel outcome = (desk, progress) := hattempt
  rw [hfloor] at hstep
  exact hstep

/-- An attempt of the runner has its outcome. -/
theorem step_deliver (hr : o.run = some r) {outcome : Except ChannelError Unit}
    (h : o.deliver plan r outcome = some q) :
    Floor.Step c plan o.floor (o.deeds c plan (.deliver outcome)) q.floor := by
  unfold deliver at h
  split at h
  · next parcel s hphase =>
    rcases hattempt : o.desk.attempt plan.terms parcel outcome with ⟨desk, progress⟩
    rw [hattempt] at h
    obtain rfl := Option.some.inj h
    have hsending : o.standing .runner = .sending parcel := by
      simp [standing, hr, hphase, Run.Phase.standing]
    have hdeeds : o.deeds c plan (.deliver outcome) = Deed.ofAttempt .runner parcel outcome := by
      rw [deeds_attempt hsending]
      cases outcome <;> rfl
    rw [hdeeds, floor_pushed (o := { o with desk }) hr]
    exact step_attempt hsending hattempt
  · cases h

/-- The runner sees that a worker has ended. -/
theorem step_observe (hr : o.run = some r) {position : Nat}
    (h : o.observe r position = some q) : Floor.Step c plan o.floor [] q.floor := by
  unfold observe at h
  split at h
  · next hphase =>
    cases h
    exact step_of_floor_eq (floor_enter_same hr (by rw [hphase]; rfl))
  · next hphase =>
    cases h
    exact step_of_floor_eq (floor_enter_same hr (by rw [hphase]; rfl))
  · cases h

/-- A caller's own step. -/
theorem step_proceed (hx : o.callers[i]? = some x) (h : o.proceed c plan i x = some q) :
    Floor.Step c plan o.floor (o.deeds c plan (.proceed i)) q.floor := by
  have hstanding : o.floor.standing (.caller i) = x.phase.standing := by
    simp [floor, standing, hx]
  unfold proceed at h
  split at h
  · next hphase =>
    split at h
    · next free =>
      cases h
      have hdeeds : o.deeds c plan (.proceed i) = [] := by simp [deeds, hx, hphase]
      rw [hdeeds, floor_setCaller (o := { o with holder := some (.caller i) }) hx]
      exact .take (by simp) free (by rw [hstanding, hphase]; rfl)
    · cases h
  · next hphase =>
    obtain ⟨desk, hdesk, rfl⟩ := Option.map_eq_some_iff.1 h
    obtain ⟨free, rfl⟩ := Desk.eq_of_take hdesk
    have hholding : o.floor.standing (.caller i) = .holding := by rw [hstanding, hphase]; rfl
    -- The caller is at the desk already when it looks at the distributor.
    have hcaller : { o with desk := { o.desk with holder := some (.caller i) } }.callers[i]? =
        some x := hx
    cases hinit : o.desk.distributor.isInitialized with
    | true =>
      have hdeeds : o.deeds c plan (.proceed i) =
          [.ofPass c plan o.floor.pipeline (.caller i) x.queries] := by
        simp [deeds, hx, hphase, hinit, floor]
      have hrefine := floor_refine c plan hcaller hinit
      rw [hdeeds, hrefine]
      exact .refinement x.queries free hholding hinit
    | false =>
      have hdeeds : o.deeds c plan (.proceed i) = [] := by simp [deeds, hx, hphase, hinit]
      have hrefine := floor_refine_refused c plan hcaller hinit
      rw [hdeeds, hrefine]
      exact .refuse free hholding hinit
  · cases h
  · cases h

/-- An attempt of a caller has its outcome. -/
theorem step_send (hx : o.callers[i]? = some x) {outcome : Except ChannelError Unit}
    (h : o.send plan i x outcome = some q) :
    Floor.Step c plan o.floor (o.deeds c plan (.send i outcome)) q.floor := by
  unfold send at h
  split at h
  · next pass parcel hphase =>
    rcases hattempt : o.desk.attempt plan.terms parcel outcome with ⟨desk, progress⟩
    rw [hattempt] at h
    obtain rfl := Option.some.inj h
    have hsending : o.standing (.caller i) = .sending parcel := by
      simp [standing, hx, hphase, Caller.Phase.standing]
    have hdeeds : o.deeds c plan (.send i outcome) = Deed.ofAttempt (.caller i) parcel outcome := by
      rw [deeds_attempt hsending]
      cases outcome <;> rfl
    rw [hdeeds, floor_refined (o := { o with desk }) hx]
    exact step_attempt hsending hattempt
  · cases h

/-- The output listener is told to stop only after its address has been bound. -/
theorem standing_of_tokens {tokens : Tokens} (h : r.tokens? = some tokens) :
    r.phase.standing ≠ .outside ∧ r.phase.standing ≠ .holding := by
  unfold Run.tokens? at h
  split at h
  · next hphase => simp [hphase, Run.Phase.standing]
  · next hphase => simp [hphase, Run.Phase.standing]
  · next e s hphase =>
    rcases e.standing_cases with he | he <;> simp [hphase, Run.Phase.standing, he]
  · next e s hphase =>
    rcases e.standing_cases with he | he <;> simp [hphase, Run.Phase.standing, he]
  · next hphase => simp [hphase, Run.Phase.standing]
  · cases h

/-- The output listener or one of its readers makes a move. -/
theorem step_listen (hr : o.run = some r) {m : Listener.Move} (h : o.listen plan r m = some q) :
    Floor.Step c plan o.floor (o.deeds c plan (.listen m)) q.floor := by
  obtain ⟨tokens, htokens, h⟩ := Option.bind_eq_some_iff.1 h
  obtain ⟨⟨l, desk⟩, hnext, h⟩ := Option.bind_eq_some_iff.1 h
  -- The end of the listener's task, if it has ended, changes nothing for the runner.
  obtain ⟨s, hs, hphase, rfl⟩ : ∃ s : Run, s.listener = l ∧
      s.phase.standing = r.phase.standing ∧ q = { o with desk, run := some s } := by
    refine ⟨_, ?_, ?_, (Option.some.inj h).symm⟩
    · split <;> simp
    · split <;> simp
  have hrunner : o.floor.standing .runner = r.phase.standing := by simp [floor, standing, hr]
  have hlistener : o.floor.standing .listener = r.listener.phase.standing := by
    simp [floor, standing, hr]
  rcases Listener.next_cases hnext with ⟨rfl, hsame, hattempt⟩ | ⟨event, rfl, free, houtside, hl⟩ |
    ⟨event, parcel, outcome, rfl, hsending, hl⟩ | ⟨event, parcel, rfl, hsending, houtside, rfl⟩
  · have hdeeds : o.deeds c plan (.listen m) = [] := by
      cases m <;> simp_all [deeds]
    rw [hdeeds]
    refine step_of_floor_eq ?_
    rw [floor_listener hr hphase, hs, hsame, ← hlistener, Floor.move, Function.update_eq_self]
  · obtain ⟨hafterBind, hafterDesk⟩ := standing_of_tokens htokens
    rw [← hs] at hl
    rw [floor_progressed hr hphase hl]
    rw [← hrunner] at hafterBind hafterDesk
    exact .approach event free (by rw [hlistener, houtside]) hafterBind hafterDesk
  · have hstanding : o.standing .listener = .sending parcel := by
      simp [standing, hr, hsending, Listener.Phase.standing]
    have hdeeds : o.deeds c plan (.listen (.attempt outcome)) =
        Deed.ofAttempt .listener parcel outcome := by
      rw [deeds_attempt hstanding]
      cases outcome <;> rfl
    rw [← hs] at hl
    rw [hdeeds, floor_progressed hr hphase hl]
    exact step_attempt hstanding rfl
  · rw [floor_listener hr hphase, hs, houtside]
    have hstanding : o.floor.standing .listener = .sending parcel := by
      rw [hlistener, hsending]
      rfl
    exact .stop hstanding

/-- A run in which only things happen that the other parties do not see. -/
theorem floor_run_same (hr : o.run = some r) {s : Run}
    (hphase : s.phase.standing = r.phase.standing) (hlistener : s.listener = r.listener) :
    ({ o with run := some s } : Orchestration).floor = o.floor := by
  have hstanding : o.floor.standing .listener = s.listener.phase.standing := by
    simp [floor, standing, hr, hlistener]
  have hmove := floor_listener hr hphase o.desk
  rw [← hstanding] at hmove
  rw [hmove, Floor.move]
  exact congrArg (Floor.mk _ _ _) (Function.update_eq_self ..)

theorem standing_request (r : Run) : r.request.phase.standing = r.phase.standing := by
  cases hphase : r.phase <;> simp [Run.request, hphase, Run.Phase.standing]

theorem listener_request (r : Run) : r.request.listener = r.listener := by
  cases hphase : r.phase <;> simp [Run.request, hphase]

/-- A new caller is where everybody is who has not come yet. -/
theorem floor_call (o : Orchestration) (queries : List LogicalQuery) :
    ({ o with callers := o.callers ++ [{ queries }] } : Orchestration).floor = o.floor := by
  simp only [floor]
  congr 1
  funext p
  cases p with
  | runner => rfl
  | listener => rfl
  | caller i =>
    simp only [standing, List.getElem?_append, List.getElem?_singleton]
    -- A caller that is not there stands where a new one does.
    by_cases hold : i < o.callers.length
    · rw [if_pos hold]
    · rw [if_neg hold, List.getElem?_eq_none (Nat.le_of_not_lt hold)]
      split <;> rfl

/-- When a run begins, its runner and its listener have not come yet. -/
theorem floor_begin (first : o.run = none) {queries : List LogicalQuery}
    {workers : List PendingWorker} (h : o.begin queries workers = some q) : q.floor = o.floor := by
  have hq : q = { o with run := some { queries, workers } } := by
    simpa [begin, first, eq_comm] using h
  rw [hq]
  simp only [floor]
  congr 1
  funext p
  cases p <;> simp [standing, first, Run.Phase.standing, Listener.Phase.standing]

/-- Every move of a control plane is a step of its floor. -/
theorem step_of_next {m : Move} (h : o.next c plan m = some q) :
    Floor.Step c plan o.floor (o.deeds c plan m) q.floor := by
  cases m with
  | advance requestFirst =>
    obtain ⟨r, hr, h⟩ := Option.bind_eq_some_iff.1 h
    exact step_advance hr h
  | bind outcome =>
    obtain ⟨r, hr, h⟩ := Option.bind_eq_some_iff.1 h
    exact step_bind hr h
  | deliver outcome =>
    obtain ⟨r, hr, h⟩ := Option.bind_eq_some_iff.1 h
    exact step_deliver hr h
  | observe position =>
    obtain ⟨r, hr, h⟩ := Option.bind_eq_some_iff.1 h
    exact step_observe hr h
  | work position event =>
    obtain ⟨r, hr, h⟩ := Option.bind_eq_some_iff.1 h
    split at h
    · cases h
      exact step_of_floor_eq (floor_run_same hr (standing_act ..) (listener_act ..))
    · cases h
  | announce =>
    obtain ⟨r, hr, h⟩ := Option.bind_eq_some_iff.1 h
    split at h
    · cases h
    · cases h
      exact step_of_floor_eq (floor_run_same hr (standing_act ..) (listener_act ..))
  | listen m =>
    obtain ⟨r, hr, h⟩ := Option.bind_eq_some_iff.1 h
    exact step_listen hr h
  | call queries =>
    cases h
    exact step_of_floor_eq (floor_call o queries)
  | proceed i =>
    obtain ⟨x, hx, h⟩ := Option.bind_eq_some_iff.1 h
    exact step_proceed hx h
  | send i outcome =>
    obtain ⟨x, hx, h⟩ := Option.bind_eq_some_iff.1 h
    exact step_send hx h
  | request =>
    cases h
    cases hr : o.run with
    | none =>
      refine step_of_floor_eq ?_
      simp only [floor]
      congr 1
      funext p
      cases p <;> simp [standing, hr]
    | some r =>
      exact step_of_floor_eq (floor_run_same hr (standing_request r) (listener_request r))
  | wait d =>
    cases h
    exact .quiet _

end Moves

end Orchestration

end ControlPlane
