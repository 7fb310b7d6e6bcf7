import ControlPlane.Proofs.Bootstrap.Supervision
import ControlPlane.Proofs.Orchestration.Moves

/-!
# The output listener among the workers

The output listener is the last of the workers that a run starts, and the end of its work is the end
of its task. So a run that is over leaves no listener behind.

## Main definitions

- `Listener.RunsAs`, `Listener.RunsLast`: the listener runs as a task, the last one of the workers.
- `Run.told`: whether the workers of a run have been told to stop.
- `Run.Attended`: what always holds of a run and its listener.

## Main statements

- `Orchestration.attended_next`: what every move preserves.
-/

namespace ControlPlane

/-! ## The listener and its task -/

namespace Listener

/-- How the listener stands to what can be seen of its task. -/
structure RunsAs (l : Listener) (t : Task) : Prop where
  kind : t.kind = .outputListener
  ended : t.hasEnded = l.hasEnded
  /-- The end of the task takes the ready signal with it, if that was not sent. -/
  held : t.signal = .held → t.hasEnded = false
  /-- The listener does not give the signal up as long as it runs. -/
  dropped : t.signal = .dropped → t.hasEnded = true

/-- The listener runs as the last of the workers. -/
def RunsLast (l : Listener) (members : List Member) : Prop :=
  ∃ m, members[members.length - 1]? = some m ∧ l.RunsAs m.task

variable {l l' : Listener} {t : Task} {members : List Member} {cancelled : Bool}

theorem RunsAs.of_hasEnded_eq (h : l.RunsAs t) (hl : l'.hasEnded = l.hasEnded) : l'.RunsAs t :=
  { h with ended := h.ended.trans hl.symm }

theorem RunsAs.signal (h : l.RunsAs t) : l.RunsAs (t.step cancelled .signal) := by
  by_cases hended : t.hasEnded = true
  · rw [Task.step_of_hasEnded hended]
    exact h
  · have hopen : ¬t.outcome.isSome = true := hended
    have hstep : t.step cancelled .signal = t.resolve .sent := if_neg hopen
    rw [hstep]
    by_cases hheld : t.signal = .held
    · have hsent : t.resolve .sent = { t with signal := .sent } := if_pos hheld
      rw [hsent]
      exact ⟨h.kind, h.ended, nofun, nofun⟩
    · have hsame : t.resolve .sent = t := if_neg hheld
      rw [hsame]
      exact h

theorem RunsAs.finish (h : l.RunsAs t) (hl : l'.hasEnded = true) (ending : Ending) :
    l'.RunsAs (t.step cancelled (.finish ending)) := by
  by_cases hended : t.hasEnded = true
  · rw [Task.step_of_hasEnded hended]
    exact h.of_hasEnded_eq (hl.trans (h.ended.symm.trans hended).symm)
  · have hopen : ¬t.outcome.isSome = true := hended
    have hover : (t.step cancelled (.finish ending)).hasEnded = true := by
      rw [Task.step, if_neg hopen]
      rfl
    -- The signal is gone unless it was sent before.
    have hsignal : (t.step cancelled (.finish ending)).signal ≠ .held := by
      rw [Task.step, if_neg hopen]
      show (t.resolve .dropped).signal ≠ .held
      unfold Task.resolve
      split
      · simp
      · assumption
    exact ⟨Task.kind_step.trans h.kind, hover.trans hl.symm, fun hheld => absurd hheld hsignal,
      fun _ => hover⟩

theorem RunsLast.of_hasEnded_eq (h : l.RunsLast members) (hl : l'.hasEnded = l.hasEnded) :
    l'.RunsLast members := by
  obtain ⟨m, hm, hruns⟩ := h
  exact ⟨m, hm, hruns.of_hasEnded_eq hl⟩

theorem RunsLast.of_tasks {members' : List Member} (h : l.RunsLast members)
    (htasks : members'.map (·.task) = members.map (·.task)) : l.RunsLast members' := by
  obtain ⟨m, hm, hruns⟩ := h
  have hlength : members'.length = members.length := by
    simpa using congrArg List.length htasks
  have hlast := congrArg (·[members.length - 1]?) htasks
  simp only [List.getElem?_map, hm, Option.map_some, Option.map_eq_some_iff] at hlast
  obtain ⟨n, hn, htask⟩ := hlast
  refine ⟨n, ?_, ?_⟩
  · rw [hlength]
    exact hn
  · rw [htask]
    exact hruns

/-- One of the workers does something; if it is the listener, the listener may have changed. -/
theorem RunsLast.act (h : l.RunsLast members) {position : Nat} {e : Task.Event}
    (hown : ∀ {t : Task}, position = members.length - 1 → l.RunsAs t →
      l'.RunsAs (t.step cancelled e))
    (hother : position ≠ members.length - 1 → l'.hasEnded = l.hasEnded) :
    l'.RunsLast (members.modify position (.act cancelled e)) := by
  obtain ⟨m, hm, hruns⟩ := h
  rw [RunsLast, List.length_modify]
  by_cases hlast : position = members.length - 1
  · refine ⟨m.act cancelled e, ?_, hown hlast hruns⟩
    rw [List.getElem?_modify, hm]
    exact congrArg some (if_pos hlast)
  · refine ⟨m, ?_, hruns.of_hasEnded_eq (hother hlast)⟩
    rw [List.getElem?_modify, hm]
    exact congrArg some (if_neg hlast)

/-- The output listener is started after all other workers, even those of its kind. -/
theorem runsLast_start (now : Instant) (program : Bool) (limit : Duration)
    (workers : List PendingWorker) :
    ({} : Listener).RunsLast (Bootstrap.start now program limit
      (workers ++ [Orchestration.listenerWorker])).members := by
  have hlast : ∀ k : WorkerKind, k.rank ≤ WorkerKind.outputListener.rank := by
    intro k
    cases k <;> decide
  have horder : Bootstrap.startOrder (·.kind) (workers ++ [Orchestration.listenerWorker]) =
      Bootstrap.startOrder (·.kind) workers ++ [Orchestration.listenerWorker] :=
    Bootstrap.startOrder_concat fun w _ => hlast w.kind
  refine ⟨.spawn Orchestration.listenerWorker, ?_, ⟨rfl, rfl, fun _ => rfl, nofun⟩⟩
  rw [Bootstrap.start, horder, List.map_append, List.length_append]
  exact List.getElem?_concat_length

theorem phase_of_hasEnded (h : l.hasEnded = true) : ∃ outcome, l.phase = .ended outcome := by
  unfold hasEnded at h
  split at h
  · exact ⟨_, ‹_›⟩
  · cases h

/-- A listener that has ended does not come back. -/
theorem hasEnded_next {terms : Terms} {limit : Nat} {d d' : Desk} {m : Move}
    (h : l.next terms limit cancelled d m = some (l', d')) (hended : l.hasEnded = true) :
    l'.hasEnded = true := by
  obtain ⟨outcome, hphase⟩ := phase_of_hasEnded hended
  cases m with
  | accept => simp [next, hphase] at h
  | read reader inTime =>
    simp only [next] at h
    split at h
    · cases h
      exact hended
    · cases h
  | enqueue reader =>
    simp only [next, if_pos hended] at h
    split at h
    · cases h
      exact hended
    · cases h
  | dequeue => simp [next, hphase] at h
  | approach => simp [next, hphase] at h
  | attempt => simp [next, hphase] at h
  | stop => simp [next, hphase] at h

theorem listenerEnding_isSome (l : Listener) :
    (Orchestration.listenerEnding l).isSome = l.hasEnded := by
  unfold Orchestration.listenerEnding hasEnded
  cases l.phase with
  | ended outcome => cases outcome <;> rfl
  | _ => rfl

end Listener

/-! ## The listener and the run -/

namespace Run

/-- Whether the workers of a run, with the listener, have been told to stop. -/
def told (r : Run) : Bool := r.tokens?.any Tokens.cancelled

/-- The workers of a run are known as well as they can be. -/
def Phase.Sound : Phase → Prop
  | .starting b => b.Sound
  | .pushing _ s => s.Sound
  | .failing _ s => s.Sound
  | .stopping _ s => s.Sound
  | .supervising s => s.Sound
  | _ => True

/-- What always holds of a run and its listener. -/
structure Attended (r : Run) : Prop where
  sound : r.phase.Sound
  last : r.tokens?.isSome = true → r.listener.RunsLast r.members
  /-- Before the workers are started there is no listener, and afterwards it has ended. -/
  absent : r.tokens? = none →
    r.listener = {} ∨ r.outcome?.isSome = true ∧ r.listener.hasEnded = true

variable {r : Run} {b : Bootstrap} {s : Supervision} {l : Listener} {position : Nat}
  {e : Task.Event}

theorem phase_of_outcome? {outcome : Except OrchestrationError Unit}
    (h : r.outcome? = some outcome) : r.phase = .ended outcome := by
  unfold outcome? at h
  split at h
  · next hphase => rw [hphase, Option.some.inj h]
  · cases h

theorem tokens?_act (r : Run) (position : Nat) (e : Task.Event) :
    (r.act position e).tokens? = r.tokens? := by
  have hbootstrap : ∀ b : Bootstrap, (b.act position e).tokens = b.tokens := by
    intro b
    unfold Bootstrap.act
    split <;> rfl
  have hsupervision : ∀ s : Supervision, (s.act position e).tokens = s.tokens := by
    intro s
    unfold Supervision.act
    split <;> rfl
  cases hphase : r.phase <;> simp [act, tokens?, hphase, hbootstrap, hsupervision]

theorem members_act (r : Run) (position : Nat) (e : Task.Event) :
    (r.act position e).members = r.members.modify position (.act r.told e) := by
  cases hphase : r.phase <;>
    simp [act, members, told, tokens?, hphase, Bootstrap.members_act, Supervision.members_act]

theorem sound_act (h : r.phase.Sound) (position : Nat) (e : Task.Event) :
    (r.act position e).phase.Sound := by
  unfold act
  cases hphase : r.phase with
  | starting b => rw [hphase] at h; exact Bootstrap.Sound.act h position e
  | pushing parcel s => rw [hphase] at h; exact Supervision.Sound.act h position e
  | failing error s => rw [hphase] at h; exact Supervision.Sound.act h position e
  | stopping error s => rw [hphase] at h; exact Supervision.Sound.act h position e
  | supervising s => rw [hphase] at h; exact Supervision.Sound.act h position e
  | _ => simp only [hphase]; trivial

theorem tokens?_request (r : Run) :
    r.request.tokens? = r.tokens?.map fun t => { t with program := true } := by
  cases hphase : r.phase <;> simp [request, tokens?, hphase]

theorem members_request (r : Run) : r.request.members = r.members := by
  cases hphase : r.phase <;> simp [request, members, hphase]

theorem outcome?_request (r : Run) : r.request.outcome? = r.outcome? := by
  cases hphase : r.phase <;> simp [request, outcome?, hphase]

theorem sound_request (h : r.phase.Sound) : r.request.phase.Sound := by
  unfold request
  cases hphase : r.phase with
  | starting b => rw [hphase] at h; exact Bootstrap.Sound.step h (.request b)
  | pushing parcel s => rw [hphase] at h; exact Supervision.Sound.step h (.request s)
  | failing error s => rw [hphase] at h; exact Supervision.Sound.step h (.request s)
  | stopping error s => rw [hphase] at h; exact Supervision.Sound.step h (.request s)
  | supervising s => rw [hphase] at h; exact Supervision.Sound.step h (.request s)
  | _ => simp only [hphase]; trivial

namespace Attended

theorem of_phase (h : r.Attended) {phase : Phase} (hphase : r.phase = phase) :
    ({ r with phase } : Run).Attended := hphase ▸ h

/-- Before the workers are started there is no listener. -/
theorem listener_eq (h : r.Attended) (hnone : r.tokens? = none) (hopen : r.outcome? = none) :
    r.listener = {} := by
  rcases h.absent hnone with hlistener | ⟨hover, -⟩
  · exact hlistener
  · rw [hopen] at hover
    cases hover

/-- A worker does something; if it is the listener, the listener may have changed. -/
theorem act (h : r.Attended) (hstarted : r.tokens?.isSome = true) (position : Nat)
    (e : Task.Event)
    (hown : ∀ {t : Task}, position = Orchestration.listenerPosition r → r.listener.RunsAs t →
      l.RunsAs (t.step r.told e))
    (hother : position ≠ Orchestration.listenerPosition r → l.hasEnded = r.listener.hasEnded) :
    ({ r.act position e with listener := l } : Run).Attended where
  sound := sound_act h.sound position e
  last _ := by
    show l.RunsLast (r.act position e).members
    rw [members_act]
    exact (h.last hstarted).act hown hother
  absent hnone := by
    have htokens : (r.act position e).tokens? = none := hnone
    rw [tokens?_act] at htokens
    rw [htokens] at hstarted
    cases hstarted

/-- The listener may do what does not end it. -/
theorem of_hasEnded_eq (h : r.Attended) (hstarted : r.tokens?.isSome = true)
    (hl : l.hasEnded = r.listener.hasEnded) : ({ r with listener := l } : Run).Attended where
  sound := h.sound
  last _ := (h.last hstarted).of_hasEnded_eq hl
  absent hnone := by
    have htokens : r.tokens? = none := hnone
    rw [htokens] at hstarted
    cases hstarted

theorem request (h : r.Attended) : r.request.Attended where
  sound := sound_request h.sound
  last hstarted := by
    rw [tokens?_request, Option.isSome_map] at hstarted
    rw [members_request, Orchestration.listener_request]
    exact h.last hstarted
  absent hnone := by
    rw [tokens?_request, Option.map_eq_none_iff] at hnone
    rw [outcome?_request, Orchestration.listener_request]
    exact h.absent hnone

end Attended

end Run

namespace Orchestration

variable {c : Collaborators} {plan : Plan} {o q : Orchestration} {r : Run} {s : Supervision}

theorem standing_runner (hr : o.run = some r) : o.standing .runner = r.phase.standing := by
  simp [standing, hr]

theorem standing_listener (hr : o.run = some r) :
    o.standing .listener = r.listener.phase.standing := by
  simp [standing, hr]

/-- If there is a run, what holds of runs and their listeners holds of it. -/
def Attended (o : Orchestration) : Prop := ∀ r, o.run = some r → r.Attended

theorem attended_of_run {o : Orchestration} (hr : o.run = some r) (h : r.Attended) :
    o.Attended := by
  intro s hs
  obtain rfl := Option.some.inj (hr.symm.trans hs)
  exact h

theorem attended_of_run_eq (h : o.Attended) (hrun : q.run = o.run) : q.Attended := by
  intro r hr
  exact h r (hrun ▸ hr)

theorem attended_pushed (hs : s.Sound) (hl : r.listener.RunsLast s.members)
    (progress : Parcel.Progress) : (o.pushed r s progress).Attended := by
  rcases progress with parcel | outcome
  · exact attended_of_run rfl ⟨hs, fun _ => hl, nofun⟩
  · cases outcome with
    | ok u => exact attended_of_run rfl ⟨hs, fun _ => hl, nofun⟩
    | error e => exact attended_of_run rfl ⟨hs, fun _ => hl, nofun⟩

theorem attended_push (hs : s.Sound) (hl : r.listener.RunsLast s.members) :
    (o.push c plan r s).Attended := by
  unfold push
  split
  · exact attended_of_run rfl ⟨hs, fun _ => hl, nofun⟩
  · exact attended_pushed hs hl _

/-- A run that has waited for the ends of all workers leaves no listener behind. -/
theorem attended_conclude (hs : s.Sound) (hl : r.listener.RunsLast s.members)
    {error : Option OrchestrationError} (h : o.conclude r s error = some q) : q.Attended := by
  obtain ⟨outcome, hreport, rfl⟩ := Option.map_eq_some_iff.1 h
  obtain ⟨m, hm, hruns⟩ := hl
  have hended : r.listener.hasEnded = true := hruns.ended.symm.trans (hs.ended hreport hm)
  exact attended_of_run rfl ⟨trivial, nofun, fun _ => .inr ⟨rfl, hended⟩⟩

/-- A failed bootstrap has waited for the listener as well: it cannot have lost its task, since the
listener does not give its ready signal up as long as it runs. -/
theorem hasEnded_of_failed {b : Bootstrap} (hb : b.Sound) (hl : r.listener.RunsLast b.members)
    {error : BootstrapError} (hfailed : b.phase = .failed error) : r.listener.hasEnded = true := by
  obtain ⟨m, hm, hruns⟩ := hl
  have hfits : m.Stopping error True := hb.fits_phase hfailed hm
  rw [← hruns.ended]
  rcases hfits.ended trivial with hended | habandoned
  · exact hended
  · exact hruns.dropped (hfits.abandoned habandoned).2

theorem attended_advance (h : r.Attended) {requestFirst : Bool}
    (hq : o.advance c plan requestFirst r = some q) : q.Attended := by
  unfold advance at hq
  split at hq
  · next hphase =>
    have hlistener := (h.of_phase hphase).listener_eq rfl rfl
    split at hq
    · cases hq
      exact attended_of_run rfl ⟨trivial, nofun, fun _ => .inl hlistener⟩
    · cases hq
  · next hphase =>
    have hlistener := (h.of_phase hphase).listener_eq rfl rfl
    obtain ⟨desk, -, rfl⟩ := Option.map_eq_some_iff.1 hq
    exact attended_of_run rfl ⟨trivial, nofun, fun _ => .inl hlistener⟩
  · cases hq
  · next b hphase =>
    have hb : b.Sound := (h.of_phase hphase).sound
    have hl : r.listener.RunsLast b.members := (h.of_phase hphase).last rfl
    split at hq
    · next hready =>
      cases hq
      exact attended_push (Supervision.sound_ofMembers b.tokens hb hready) hl
    · next error hfailed =>
      cases hq
      have hended := hasEnded_of_failed hb hl hfailed
      exact attended_of_run rfl ⟨trivial, nofun, fun _ => .inr ⟨rfl, hended⟩⟩
    · cases hq
      have hnow : Bootstrap.Sound { b with now := o.now } := ⟨hb.fits, hb.alone, hb.told⟩
      have hlast := hl.of_tasks (Bootstrap.tasks_next (b := { b with now := o.now }) requestFirst)
      exact attended_of_run rfl ⟨hnow.next requestFirst, fun _ => hlast, nofun⟩
  · cases hq
  · next error s hphase =>
    cases hq
    have hs : s.Sound := (h.of_phase hphase).sound
    have hl : r.listener.RunsLast s.members := (h.of_phase hphase).last rfl
    exact attended_of_run rfl ⟨hs.step (.stop s), fun _ => hl, nofun⟩
  · next error s hphase =>
    have hl : r.listener.RunsLast s.members := (h.of_phase hphase).last rfl
    exact attended_conclude (h.of_phase hphase).sound hl hq
  · next s hphase =>
    have hl : r.listener.RunsLast s.members := (h.of_phase hphase).last rfl
    exact attended_conclude (h.of_phase hphase).sound hl hq
  · cases hq

theorem attended_bind (h : r.Attended) {outcome : Except SystemError Unit}
    (hq : o.bind plan r outcome = some q) : q.Attended := by
  unfold bind at hq
  split at hq
  · next hphase =>
    cases hq
    have hlistener : r.listener = {} := (h.of_phase hphase).listener_eq rfl rfl
    refine attended_of_run rfl ⟨Bootstrap.sound_start .., fun _ => ?_, nofun⟩
    show r.listener.RunsLast _
    rw [hlistener]
    exact Listener.runsLast_start ..
  · next error hphase =>
    cases hq
    have hlistener := (h.of_phase hphase).listener_eq rfl rfl
    exact attended_of_run rfl ⟨trivial, nofun, fun _ => .inl hlistener⟩
  · cases hq

theorem attended_deliver (h : r.Attended) {outcome : Except ChannelError Unit}
    (hq : o.deliver plan r outcome = some q) : q.Attended := by
  unfold deliver at hq
  split at hq
  · next parcel s hphase =>
    cases hq
    exact attended_pushed (h.of_phase hphase).sound ((h.of_phase hphase).last rfl) _
  · cases hq

theorem attended_observe (h : r.Attended) {position : Nat}
    (hq : o.observe r position = some q) : q.Attended := by
  unfold observe at hq
  split at hq
  · next error s hphase =>
    cases hq
    have hs : s.Sound := (h.of_phase hphase).sound
    have hl : r.listener.RunsLast s.members := (h.of_phase hphase).last rfl
    rw [← s.members_observe position] at hl
    exact attended_of_run rfl ⟨hs.observe position, fun _ => hl, nofun⟩
  · next s hphase =>
    cases hq
    have hs : s.Sound := (h.of_phase hphase).sound
    have hl : r.listener.RunsLast s.members := (h.of_phase hphase).last rfl
    rw [← s.members_observe position] at hl
    exact attended_of_run rfl ⟨hs.observe position, fun _ => hl, nofun⟩
  · cases hq

/-- Only workers that have been started do anything. -/
theorem isSome_tokens?_of_members (h : r.members ≠ []) : r.tokens?.isSome = true := by
  unfold Run.members at h
  cases hphase : r.phase <;> simp [Run.tokens?, hphase] at h ⊢

theorem attended_listen (h : r.Attended) {m : Listener.Move} (hq : o.listen plan r m = some q) :
    q.Attended := by
  obtain ⟨tokens, htokens, hq⟩ := Option.bind_eq_some_iff.1 hq
  obtain ⟨⟨l, desk⟩, hnext, hq⟩ := Option.bind_eq_some_iff.1 hq
  obtain rfl := Option.some.inj hq
  have hstarted : r.tokens?.isSome = true := by
    rw [htokens]
    rfl
  refine attended_of_run rfl ?_
  cases hending : listenerEnding l with
  | none =>
    -- The listener goes on, so it had not ended before.
    have hopen : l.hasEnded = false := by
      rw [← l.listenerEnding_isSome, hending]
      rfl
    refine h.of_hasEnded_eq hstarted (hopen.trans ?_)
    by_contra hended
    have hover := Listener.hasEnded_next hnext (Bool.of_not_eq_false (Ne.symm hended))
    rw [hopen] at hover
    cases hover
  | some ending =>
    have hended : l.hasEnded = true := by
      rw [← l.listenerEnding_isSome, hending]
      rfl
    have hlast := h.act (l := l) hstarted (listenerPosition r) (.finish ending)
      (fun _ hruns => hruns.finish hended ending) fun hne => absurd rfl hne
    have hsame : Run.act { r with listener := l } (listenerPosition r) (.finish ending) =
        { r.act (listenerPosition r) (.finish ending) with listener := l } := by
      cases hphase : r.phase <;> simp [Run.act, hphase]
    rw [← hsame] at hlast
    exact hlast

theorem run_refined (i : Nat) (x : Caller) (pass : Pass) (progress : Parcel.Progress) :
    (o.refined i x pass progress).run = o.run := by
  rcases progress with parcel | outcome
  · rfl
  · cases outcome <;> rfl

/-- What a caller does leaves the run as it is. -/
theorem run_proceed {i : Nat} {x : Caller} (hq : o.proceed c plan i x = some q) :
    q.run = o.run := by
  unfold proceed at hq
  split at hq
  · split at hq
    · cases hq
      rfl
    · cases hq
  · obtain ⟨desk, -, rfl⟩ := Option.map_eq_some_iff.1 hq
    unfold refine
    split
    · split
      · rfl
      · exact run_refined ..
    · rfl
  · cases hq
  · cases hq

theorem run_send {i : Nat} {x : Caller} {outcome : Except ChannelError Unit}
    (hq : o.send plan i x outcome = some q) : q.run = o.run := by
  unfold send at hq
  split at hq
  · cases hq
    exact run_refined ..
  · cases hq

/-- What every move preserves. -/
theorem attended_next (h : o.Attended) {m : Move} (hq : o.next c plan m = some q) :
    q.Attended := by
  cases m with
  | advance requestFirst =>
    obtain ⟨r, hr, hq⟩ := Option.bind_eq_some_iff.1 hq
    exact attended_advance (h r hr) hq
  | bind outcome =>
    obtain ⟨r, hr, hq⟩ := Option.bind_eq_some_iff.1 hq
    exact attended_bind (h r hr) hq
  | deliver outcome =>
    obtain ⟨r, hr, hq⟩ := Option.bind_eq_some_iff.1 hq
    exact attended_deliver (h r hr) hq
  | observe position =>
    obtain ⟨r, hr, hq⟩ := Option.bind_eq_some_iff.1 hq
    exact attended_observe (h r hr) hq
  | work position event =>
    obtain ⟨r, hr, hq⟩ := Option.bind_eq_some_iff.1 hq
    split at hq
    · next hlt =>
      cases hq
      have hstarted : r.tokens?.isSome = true := by
        apply isSome_tokens?_of_members
        rintro hnone
        simp [listenerPosition, hnone] at hlt
      have hacted := (h r hr).act (l := r.listener) hstarted position event
        (fun hlast => absurd hlast (Nat.ne_of_lt hlt)) fun _ => rfl
      rw [← listener_act r position event] at hacted
      exact attended_of_run rfl hacted
    · cases hq
  | announce =>
    obtain ⟨r, hr, hq⟩ := Option.bind_eq_some_iff.1 hq
    split at hq
    · cases hq
    · next hsome =>
      cases hq
      have hstarted : r.tokens?.isSome = true := by
        apply isSome_tokens?_of_members
        rintro hnone
        exact hsome (List.isEmpty_iff.2 hnone)
      have hacted := (h r hr).act (l := r.listener) hstarted (listenerPosition r) .signal
        (fun _ hruns => hruns.signal) fun hne => absurd rfl hne
      rw [← listener_act r (listenerPosition r) .signal] at hacted
      exact attended_of_run rfl hacted
  | listen m =>
    obtain ⟨r, hr, hq⟩ := Option.bind_eq_some_iff.1 hq
    exact attended_listen (h r hr) hq
  | call queries =>
    cases hq
    exact attended_of_run_eq h rfl
  | proceed i =>
    obtain ⟨x, -, hq⟩ := Option.bind_eq_some_iff.1 hq
    exact attended_of_run_eq h (run_proceed hq)
  | send i outcome =>
    obtain ⟨x, -, hq⟩ := Option.bind_eq_some_iff.1 hq
    exact attended_of_run_eq h (run_send hq)
  | request =>
    cases hq
    intro s hs
    obtain ⟨r, hr, rfl⟩ := Option.map_eq_some_iff.1 hs
    exact (h r hr).request
  | wait d =>
    cases hq
    exact attended_of_run_eq h rfl

end Orchestration

end ControlPlane
