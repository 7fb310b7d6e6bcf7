import ControlPlane.Proofs.Bootstrap.Failure
import Mathlib.Data.List.Basic

/-!
# What the answer of a bootstrap means

A bootstrap starts each worker once, in the order of the kinds. When it reports that all are ready,
each of them has said so; when it blames a worker, that worker had not said so when the bootstrap
gave up waiting for it, and those before it had.

## Main definitions

- `Bootstrap.GaveUp`: the step in which a wait for a worker ends without its signal.
- `Bootstrap.Dependable`: what can be relied on.

## Main statements

- `Bootstrap.exists_gaveUp`: whoever is blamed was waited for.
- `Bootstrap.answers_are_dependable`: what can be relied on holds at any time.
-/

namespace ControlPlane

/-- The error for a worker that failed before it was ready blames that worker. -/
theorem BootstrapError.worker_ofWorker (k : WorkerKind) (limit : Duration) (e : WorkerError) :
    (ofWorker k limit e).worker = some k := by
  cases e <;> rfl

namespace Bootstrap

/-! ## Whom a bootstrap blames -/

variable {b c d : Bootstrap} {position : Nat} {error : BootstrapError}

/-- In the step from `c` to `d` the wait for the worker at `position` ends with an error: the worker
has not said that it is ready, and all workers before it have. -/
structure GaveUp (c d : Bootstrap) (position : Nat) (error : BootstrapError) : Prop where
  step : ∃ requestFirst, d = c.next requestFirst
  waited : ∃ wait, c.phase = .awaiting position wait
  failed : d.phase = .draining 0 error
  blamed : ∃ m, c.members[position]? = some m ∧ error.worker = some m.task.kind ∧
    m.task.signal ≠ .sent
  before : ∀ earlier < position, ∃ m, c.members[earlier]? = some m ∧ m.task.signal = .sent

/-- A look at a worker that ends the wait with an error has not found its signal. -/
theorem signal_ne_sent_of_look {m : Member} {wait : Option ReadyWait} {now : Instant}
    {limit : Duration} {e : WorkerError} (h : m.Fits position (.awaiting position wait))
    (hlook : (m.look now limit wait).1 = .done (.error e)) : m.task.signal ≠ .sent := by
  intro hsent
  have hcurrent := h.2.2 rfl
  cases wait with
  | none =>
    have hidle : m.handle = {} := hcurrent
    simp [Member.look, Handle.beginWait, hidle, Handle.lookReady, hsent] at hlook
  | some wait =>
    cases wait with
    | signal deadline limit => simp [Member.look, Handle.lookReady, hsent] at hlook
    | ending =>
      have hdropped : m.task.signal = .dropped := hcurrent.2
      rw [hsent] at hdropped
      cases hdropped

/-- The workers before the one that is waited for have said that they are ready. -/
theorem Sound.sent_before (h : b.Sound) {wait : Option ReadyWait}
    (hphase : b.phase = .awaiting position wait) {m : Member}
    (hm : b.members[position]? = some m) :
    ∀ earlier < position, ∃ n, b.members[earlier]? = some n ∧ n.task.signal = .sent := by
  intro earlier hlt
  have hlength := (List.getElem?_eq_some_iff.1 hm).1
  have hn : b.members[earlier]? = some b.members[earlier] := List.getElem?_eq_getElem (by omega)
  exact ⟨_, hn, ((h.fits_phase hphase hn).1 hlt).2⟩

/-- A look at a worker makes the bootstrap fail only with an error of that worker. -/
theorem eq_of_error?_looked {m : Member} {look : Look ReadyWait (Except WorkerError Unit) × Handle}
    (h : (b.looked position m look).phase.error? = some error) :
    (∃ e, look.1 = .done (.error e)) ∧ error.worker = some m.task.kind ∧
      (b.looked position m look).phase = .draining 0 error := by
  obtain ⟨answer, handle⟩ := look
  cases answer with
  | waiting wait => cases h
  | done answer =>
    cases answer with
    | ok u => cases h
    | error e =>
      obtain rfl := Option.some.inj h
      exact ⟨⟨e, rfl⟩, BootstrapError.worker_ofWorker .., rfl⟩

/-- A bootstrap that begins to fail has given up a wait, unless it was told to stop. -/
theorem Sound.gaveUp (h : b.Sound) {wait : Option ReadyWait} {requestFirst : Bool}
    (hphase : b.phase = .awaiting position wait)
    (herror : (b.next requestFirst).phase.error? = some error) (hblames : error ≠ .cancelled) :
    GaveUp b (b.next requestFirst) position error := by
  cases hm : b.members[position]? with
  | none =>
    have hready : (b.next requestFirst).phase = .ready := by
      simp only [Bootstrap.next, hphase, hm]
    rw [hready] at herror
    cases herror
  | some m =>
    have hfits := h.fits_phase hphase hm
    rcases next_of_awaiting requestFirst hphase hm with ⟨-, hnext⟩ | hnext | ⟨-, -, hnext⟩
    · rw [hnext] at herror
      exact absurd (Option.some.inj herror).symm hblames
    · rw [hnext] at herror
      obtain ⟨⟨e, hlook⟩, hworker, hfailed⟩ := eq_of_error?_looked herror
      rw [← hnext] at hfailed
      exact
        { step := ⟨requestFirst, rfl⟩
          waited := ⟨wait, hphase⟩
          failed := hfailed
          blamed := ⟨m, hm, hworker, signal_ne_sent_of_look hfits hlook⟩
          before := h.sent_before hphase hm }
    · rw [hnext] at herror
      exact absurd (Option.some.inj herror).symm hblames

/-- A bootstrap that has an error had it before, or has just begun to fail. -/
theorem error?_step (h : Step c d) (herror : d.phase.error? = some error) :
    c.phase.error? = some error ∨
      ∃ position wait requestFirst, c.phase = .awaiting position wait ∧
        d = c.next requestFirst := by
  cases h with
  | next requestFirst =>
    cases hphase : c.phase with
    | awaiting position wait => exact .inr ⟨position, wait, requestFirst, rfl, rfl⟩
    | draining position e =>
      left
      simp only [next, hphase] at herror
      split at herror
      · exact herror
      · split at herror
        · exact herror
        · rwa [hphase] at herror
    | failed e => simpa only [next, hphase] using Or.inl herror
    | ready => simp [next, hphase, Phase.error?] at herror
  | act position e =>
    left
    simp only [act] at herror
    split at herror <;> exact herror
  | request => exact .inl herror
  | wait => exact .inl herror

/-- Whoever is blamed in the end was waited for, and the wait has ended without its signal. -/
theorem exists_gaveUp (hs : b.Sound) (hb : b.phase.error? = none) (h : b.Reaches d)
    (herror : d.phase.error? = some error) (hblames : error ≠ .cancelled) :
    ∃ position c c', b.Reaches c ∧ c'.Reaches d ∧ GaveUp c c' position error := by
  induction h with
  | refl =>
    rw [hb] at herror
    cases herror
  | @tail c d hc hstep ih =>
    rcases error?_step hstep herror with hbefore | ⟨position, wait, requestFirst, hphase, rfl⟩
    · obtain ⟨position, e, e', he, he', hgaveUp⟩ := ih hbefore
      exact ⟨position, e, e', he, he'.tail hstep, hgaveUp⟩
    · exact ⟨position, c, _, hc, .refl, (hs.reaches hc).gaveUp hphase herror hblames⟩

/-! ## What can be relied on -/

/-- What can be relied on at any time in a bootstrap of the given workers that has come from `b` to
`d`. -/
structure Dependable (given : List PendingWorker) (b d : Bootstrap) : Prop where
  /-- Each worker has been started once, and they are listed in start order. -/
  started : InStartOrder (·.kind) given d.workers
  /-- Each runs on a task of its own kind. -/
  own : ∀ m ∈ d.members, m.task.kind = m.worker.kind
  /-- If all are said to be ready, all have said so. -/
  ready : d.phase = .ready → ∀ m ∈ d.members, m.task.signal = .sent
  /-- If a worker is blamed, one of its kind had not said that it is ready when the wait for it
  ended, and all before it in the order had. -/
  blamed : ∀ error k, d.phase.error? = some error → error.worker = some k →
    ∃ position w c c', d.workers[position]? = some w ∧ w.kind = k ∧ c.workers = d.workers ∧
      b.Reaches c ∧ c'.Reaches d ∧ GaveUp c c' position error

variable {now : Instant} {program : Bool} {limit : Duration} {given : List PendingWorker}

/-- A bootstrap that blames a worker has given up the wait for one of its kind. -/
theorem exists_blamed {k : WorkerKind} (h : (start now program limit given).Reaches d)
    (herror : d.phase.error? = some error) (hblames : error.worker = some k) :
    ∃ position w c c', d.workers[position]? = some w ∧ w.kind = k ∧ c.workers = d.workers ∧
      (start now program limit given).Reaches c ∧ c'.Reaches d ∧ GaveUp c c' position error := by
  have hcancelled : error ≠ .cancelled := by
    rintro rfl
    cases hblames
  obtain ⟨position, c, c', hc, hc', hgaveUp⟩ :=
    exists_gaveUp (sound_start ..) rfl h herror hcancelled
  obtain ⟨m, hm, hworker, -⟩ := hgaveUp.blamed
  have hkind : m.worker.kind = k := by
    rw [← kind_of_started hc m (List.mem_of_getElem? hm)]
    exact Option.some.inj (hworker.symm.trans hblames)
  -- The worker at this position is still the one that was started there.
  have hworkers : c.workers = d.workers := (workers_of_started hc).trans (workers_of_started h).symm
  have hposition : d.workers[position]? = some m.worker := by
    rw [← hworkers, workers, List.getElem?_map, hm]
    rfl
  exact ⟨position, m.worker, c, c', hposition, hkind, hworkers, hc, hc', hgaveUp⟩

theorem dependable_of_started (h : (start now program limit given).Reaches d) :
    Dependable given (start now program limit given) d where
  started := by
    rw [workers_of_started h]
    exact inStartOrder ..
  own := kind_of_started h
  ready hready m hm := by
    obtain ⟨position, hposition⟩ := List.mem_iff_getElem?.1 hm
    have hfits : m.Ready := ((sound_start ..).reaches h).fits_phase hready hposition
    exact hfits.2
  blamed _ _ := exists_blamed h

/-- Nothing is started exactly if the clock cannot tell the deadline. Otherwise, whatever the
workers do, and whenever time passes or a shutdown is requested: what the bootstrap answers can be
relied on. -/
theorem answers_are_dependable (now : Instant) (program : Bool) (limit : Duration)
    (given : List PendingWorker) :
    (launch? now program limit given = none ↔ Instant.last < now + limit.nanos) ∧
      ∀ b d, launch? now program limit given = some b → b.Reaches d → Dependable given b d := by
  rw [launch?]
  split
  · next hle =>
    refine ⟨⟨nofun, fun hlt => absurd hlt (Nat.not_lt.mpr hle)⟩, fun b d hlaunch h => ?_⟩
    obtain rfl := Option.some.inj hlaunch
    exact dependable_of_started h
  · next hnot =>
    refine ⟨⟨fun _ => Nat.lt_of_not_le hnot, fun _ => rfl⟩, fun b d hlaunch => ?_⟩
    cases hlaunch

/-- Of two emitters and a fabric manager, which is started first, the second emitter is not ready
within a second, and the bootstrap blames an emitter. -/
theorem blamed_second_emitter :
    let given := [⟨.emitter, "e"⟩, ⟨.fabricManager, "f"⟩, ⟨.emitter, "g"⟩]
    ∃ b d, launch? 0 false (.ofSecs 1) given = some b ∧ b.Reaches d ∧
      d.phase = .failed (.readinessTimeout .emitter (.ofSecs 1)) ∧
      d.workers = [⟨.fabricManager, "f"⟩, ⟨.emitter, "e"⟩, ⟨.emitter, "g"⟩] ∧
      Dependable given b d := by
  intro given
  let b := start 0 false (.ofSecs 1) given
  have hlaunch : launch? 0 false (.ofSecs 1) given = some b := if_pos (by decide +kernel)
  have h₁ : b.Reaches ((b.act 0 .signal).act 1 .signal) :=
    .tail (.tail .refl (.act 0 .signal _)) (.act 1 .signal _)
  have h₂ := ((h₁.tail (.next false _)).tail (.next false _)).tail (.next false _)
  have h₃ := (h₂.tail (.wait 1000000000 _)).tail (.next false _)
  have h₄ := ((h₃.tail (.act 0 (.finish .returned) _)).tail (.act 1 (.finish .returned) _)).tail
    (.act 2 (.finish .returned) _)
  have h₅ := (((h₄.tail (.next false _)).tail (.next false _)).tail (.next false _)).tail
    (.next false _)
  exact ⟨b, _, hlaunch, h₅, by decide +kernel, by decide +kernel,
    (answers_are_dependable 0 false (.ofSecs 1) given).2 b _ hlaunch h₅⟩

end Bootstrap

end ControlPlane
