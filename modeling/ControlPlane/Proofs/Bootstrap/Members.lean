import ControlPlane.Bootstrap.Sequence
import ControlPlane.Proofs.Worker.Waiting

/-!
# What a bootstrap knows of its workers

A bootstrap goes through its workers one after another. At any time those before its position have
said that they are ready, those behind it have not been waited for, and when it has failed it still
holds the tasks of all workers but for at most one: a wait for the end of a task that is broken off
takes the task with it.

## Main definitions

- `Member.Abandoned`: the end of a worker cannot be waited for any more.
- `Member.Fits`: how a worker stands to the phase of the bootstrap.
- `Bootstrap.Sound`: how all of them do.

## Main statements

- `Member.looked_lookReady`: what one look at a worker comes to.
- `Bootstrap.Sound.step`, `Bootstrap.Sound.reaches`: what every step preserves.
-/

namespace ControlPlane

/-! ## Workers and their handles -/

namespace Member

variable {m : Member} {cancelled : Bool} {e : Task.Event}

/-- Nobody has waited for the worker yet. -/
def Idle (m : Member) : Prop := m.handle = {}

/-- The worker has said that it is ready. -/
def Ready (m : Member) : Prop := m.handle = { listening := false } ∧ m.task.signal = .sent

/-- A wait for the worker is under way. -/
def Awaited (m : Member) : ReadyWait → Prop
  | .signal _ _ => m.handle = { listening := false }
  | .ending => m.handle = { listening := false, attached := false } ∧ m.task.signal = .dropped

/-- A wait for the end of the worker was broken off, and nobody can wait for it any more. -/
def Abandoned (m : Member) : Prop := m.handle.attached = false ∧ m.handle.remembered = none

/-- The end of the worker can still be waited for, or it has been seen. -/
def Held (m : Member) : Prop :=
  (m.handle.remembered.isSome → m.task.hasEnded = true) ∧ ¬m.Abandoned

/-- How a worker stands to a bootstrap that has failed with `error`; `past` says whether the
bootstrap has waited for its end. -/
structure Stopping (m : Member) (error : BootstrapError) (past : Prop) : Prop where
  remembered : m.handle.remembered.isSome → m.task.hasEnded = true
  abandoned : m.Abandoned → error = .cancelled ∧ m.task.signal = .dropped
  ended : past → m.task.hasEnded = true ∨ m.Abandoned

/-- How the worker at `position` stands to a bootstrap in a phase. -/
def Fits (m : Member) (position : Nat) : Bootstrap.Phase → Prop
  | .awaiting current wait =>
    (position < current → m.Ready) ∧ (current < position → m.Idle) ∧
      (position = current →
        match wait with
        | none => m.Idle
        | some wait => m.Awaited wait)
  | .draining current error => m.Stopping error (position < current)
  | .failed error => m.Stopping error True
  | .ready => m.Ready

theorem Idle.held (h : m.Idle) : m.Held := by
  rw [Idle] at h
  simp [Held, Abandoned, h]

theorem Ready.held (h : m.Ready) : m.Held := by
  simp [Held, Abandoned, h.1]

theorem Held.stopping (h : m.Held) (error : BootstrapError) : m.Stopping error False :=
  ⟨h.1, fun ha => absurd ha h.2, False.elim⟩

/-- A worker that is awaited is held unless the wait is for its end. -/
theorem Awaited.stopping {wait : ReadyWait} (h : m.Awaited wait) :
    m.Stopping .cancelled False := by
  cases wait with
  | signal deadline limit =>
    have hheld : m.Held := by
      rw [Awaited] at h
      simp [Held, Abandoned, h]
    exact hheld.stopping .cancelled
  | ending =>
    refine ⟨fun hr => ?_, fun _ => ⟨rfl, h.2⟩, False.elim⟩
    rw [h.1] at hr
    cases hr

/-- Whatever a worker does, it stands as before to the bootstrap. -/
theorem Fits.act {position : Nat} {phase : Bootstrap.Phase} (h : m.Fits position phase) :
    ({ m with task := m.task.step cancelled e } : Member).Fits position phase := by
  have hended : m.task.hasEnded = true → (m.task.step cancelled e).hasEnded = true := by
    intro h
    rw [Task.step_of_hasEnded h]
    exact h
  have hready : m.Ready → ({ m with task := m.task.step cancelled e } : Member).Ready := by
    intro h
    refine ⟨h.1, (Task.signal_step ?_).trans h.2⟩
    rw [h.2]
    exact nofun
  have hdropped : m.task.signal = .dropped → (m.task.step cancelled e).signal = .dropped := by
    intro h
    refine (Task.signal_step ?_).trans h
    rw [h]
    exact nofun
  have hstopping : ∀ {error past}, m.Stopping error past →
      ({ m with task := m.task.step cancelled e } : Member).Stopping error past := by
    intro error past h
    exact ⟨fun hr => hended (h.remembered hr),
      fun ha => (h.abandoned ha).imp_right hdropped,
      fun hp => (h.ended hp).imp_left hended⟩
  cases phase with
  | awaiting current wait =>
    obtain ⟨hbefore, hbehind, hcurrent⟩ := h
    refine ⟨fun hlt => hready (hbefore hlt), hbehind, fun heq => ?_⟩
    have hwait := hcurrent heq
    match wait, hwait with
    | none, hidle => exact hidle
    | some (.signal deadline limit), hsignal => exact hsignal
    | some .ending, hending => exact hending.imp_right hdropped
  | draining current error => exact hstopping h
  | failed error => exact hstopping h
  | ready => exact hready h

/-! ## Looks at a worker -/

/-- How a worker stands after a look at it. -/
def Looked (m : Member) : Look ReadyWait (Except WorkerError Unit) → Prop
  | .waiting wait => m.Awaited wait
  | .done (.ok ()) => m.Ready
  | .done (.error _) => m.Held

theorem looked_lookEnding (hh : m.handle = { listening := false, attached := false })
    (hs : m.task.signal = .dropped) :
    ({ m with handle := (m.handle.lookEnding m.task).2 } : Member).Looked
      (m.handle.lookEnding m.task).1 := by
  cases houtcome : m.task.outcome with
  | none =>
    simp only [Handle.lookEnding, houtcome]
    exact ⟨hh, hs⟩
  | some outcome =>
    have hended : m.task.hasEnded = true := by rw [Task.hasEnded, houtcome]; rfl
    cases outcome with
    | ok u =>
      simp [Handle.lookEnding, houtcome, Handle.endedBeforeReady, Looked, Held, Abandoned, hended]
    | error error =>
      simp [Handle.lookEnding, houtcome, Handle.endedBeforeReady, Looked, Held, Abandoned, hended]

/-- One look at a worker that is awaited. -/
theorem looked_lookReady {wait : ReadyWait} (h : m.Awaited wait) (now : Instant) :
    ({ m with handle := (m.handle.lookReady m.task now wait).2 } : Member).Looked
      (m.handle.lookReady m.task now wait).1 := by
  cases wait with
  | ending => exact looked_lookEnding h.1 h.2
  | signal deadline limit =>
    have hh : m.handle = { listening := false } := h
    cases hs : m.task.signal with
    | sent =>
      simp only [Handle.lookReady, hs]
      exact ⟨hh, hs⟩
    | dropped =>
      simp only [Handle.lookReady, hs, hh, if_true]
      exact looked_lookEnding (m := { m with handle := _ }) rfl hs
    | held =>
      simp only [Handle.lookReady, hs]
      by_cases hlate : deadline ≤ now
      · simp [hlate, Looked, Held, Abandoned, hh]
      · simp [hlate, Looked, Awaited, hh]

/-- The first look at a worker. -/
theorem looked_beginWait (h : m.Idle) (now : Instant) (limit : Duration) :
    ({ m with handle := (m.handle.beginWait m.task now limit).2 } : Member).Looked
      (m.handle.beginWait m.task now limit).1 := by
  have hh : m.handle = {} := h
  rw [Handle.beginWait, hh, if_pos rfl]
  have hawaited : ({ m with handle := { listening := false } } : Member).Awaited
      (.signal (now + limit.nanos) limit) := rfl
  exact looked_lookReady hawaited now

/-- One look at a worker, the first or a further one. -/
def look (m : Member) (now : Instant) (limit : Duration) :
    Option ReadyWait → Look ReadyWait (Except WorkerError Unit) × Handle
  | none => m.handle.beginWait m.task now limit
  | some wait => m.handle.lookReady m.task now wait

theorem looked_look {position : Nat} {wait : Option ReadyWait}
    (h : m.Fits position (.awaiting position wait)) (now : Instant) (limit : Duration) :
    ({ m with handle := (m.look now limit wait).2 } : Member).Looked (m.look now limit wait).1 := by
  have hcurrent := h.2.2 rfl
  cases wait with
  | none => exact looked_beginWait hcurrent now limit
  | some wait => exact looked_lookReady hcurrent now

/-- As long as the bootstrap waits for workers, only the one in front of it can be out of reach. -/
theorem Fits.eq_of_abandoned {position current : Nat} {wait : Option ReadyWait}
    (h : m.Fits position (.awaiting current wait)) (ha : m.Abandoned) : position = current := by
  rcases Nat.lt_trichotomy position current with hlt | heq | hgt
  · exact absurd ha (h.1 hlt).held.2
  · exact heq
  · exact absurd ha (h.2.1 hgt).held.2

/-- How a worker stands to a shutdown that breaks the waiting off. -/
theorem Fits.stopping_cancelled {position current : Nat} {wait : Option ReadyWait}
    (h : m.Fits position (.awaiting current wait)) : m.Stopping .cancelled False := by
  rcases Nat.lt_trichotomy position current with hlt | heq | hgt
  · exact (h.1 hlt).held.stopping _
  · have hcurrent := h.2.2 heq
    cases wait with
    | none => exact hcurrent.held.stopping _
    | some wait => exact Awaited.stopping hcurrent
  · exact (h.2.1 hgt).held.stopping _

/-- What a wait for the end of a worker takes for its end. -/
theorem ended_of_lookEnd (hr : m.handle.remembered.isSome → m.task.hasEnded = true)
    (h : (m.handle.lookEnd m.task).isSome) : m.task.hasEnded = true ∨ m.Abandoned := by
  cases hremembered : m.handle.remembered with
  | some outcome =>
    left
    exact hr (by rw [hremembered]; rfl)
  | none =>
    cases hattached : m.handle.attached with
    | false => exact .inr ⟨hattached, hremembered⟩
    | true =>
      left
      simpa [Handle.lookEnd, hremembered, hattached, Task.hasEnded] using h

end Member

/-! ## The whole bootstrap -/

namespace Bootstrap

variable {b c : Bootstrap}

/-- Why a bootstrap has failed, or is about to. -/
def Phase.error? : Phase → Option BootstrapError
  | .draining _ error => some error
  | .failed error => some error
  | _ => none

/-- What always holds of a bootstrap and its workers. -/
structure Sound (b : Bootstrap) : Prop where
  fits : ∀ {position : Nat} {m : Member}, b.members[position]? = some m → m.Fits position b.phase
  /-- The end of at most one worker is out of reach. -/
  alone : ∃ gone, ∀ {position : Nat} {m : Member},
    b.members[position]? = some m → m.Abandoned → position = gone
  told : ∀ {error}, b.phase.error? = some error →
    b.tokens.set = true ∧ (error = .cancelled → b.tokens.program = true)

theorem sound_start (now : Instant) (program : Bool) (limit : Duration)
    (given : List PendingWorker) : (start now program limit given).Sound := by
  have hidle : ∀ {position : Nat} {m : Member},
      (start now program limit given).members[position]? = some m → m.Idle := by
    intro position m hm
    rw [start, List.getElem?_map, Option.map_eq_some_iff] at hm
    obtain ⟨w, -, rfl⟩ := hm
    rfl
  refine ⟨fun {position m} hm => ?_, ⟨0, fun hm ha => absurd ha (hidle hm).held.2⟩, nofun⟩
  exact ⟨fun hlt => absurd hlt (Nat.not_lt_zero position), fun _ => hidle hm, fun _ => hidle hm⟩

theorem Sound.fits_phase (h : b.Sound) {phase : Phase} (hphase : b.phase = phase)
    {position : Nat} {m : Member} (hm : b.members[position]? = some m) : m.Fits position phase :=
  hphase ▸ h.fits hm

/-- A bootstrap may fail with any error that its workers and the tokens allow. -/
theorem Sound.fail (h : b.Sound) {error : BootstrapError}
    (hstopping : ∀ {position : Nat} {m : Member},
      b.members[position]? = some m → m.Stopping error False)
    (hrequested : error = .cancelled → b.tokens.program = true) : (b.fail error).Sound := by
  refine ⟨fun {position m} hm => ?_, h.alone, fun he => ?_⟩
  · have hpast : m.Stopping error (position < 0) := by
      simpa only [Nat.not_lt_zero] using hstopping hm
    exact hpast
  · obtain rfl : error = _ := Option.some.inj he
    exact ⟨rfl, hrequested⟩

/-- A requested shutdown may be noticed at any time while workers are waited for. -/
theorem Sound.fail_cancelled (h : b.Sound) {current : Nat} {wait : Option ReadyWait}
    (hphase : b.phase = .awaiting current wait) (hprogram : b.tokens.program = true) :
    (b.fail .cancelled).Sound := by
  refine h.fail (fun {position m} hm => ?_) fun _ => hprogram
  exact (h.fits_phase hphase hm).stopping_cancelled

/-- The workers of a bootstrap that waits for the one at `current`, with another in its place. -/
theorem Sound.placed (h : b.Sound) {current : Nat} {wait : Option ReadyWait}
    (hphase : b.phase = .awaiting current wait) {m n : Member} {position : Nat}
    (hn : (b.members.set current m)[position]? = some n) :
    (position < current ∧ n.Ready) ∨ (position = current ∧ n = m) ∨
      (current < position ∧ n.Idle) := by
  by_cases heq : current = position
  · subst heq
    rw [List.getElem?_set_self', Option.map_eq_map, Option.map_eq_some_iff] at hn
    obtain ⟨_, -, rfl⟩ := hn
    exact .inr (.inl ⟨rfl, rfl⟩)
  · rw [List.getElem?_set_ne heq] at hn
    have hfits := h.fits_phase hphase hn
    rcases Nat.lt_or_gt_of_ne heq with hgt | hlt
    · exact .inr (.inr ⟨hgt, hfits.2.1 hgt⟩)
    · exact .inl ⟨hlt, hfits.1 hlt⟩

/-- What a look at the worker in front of the bootstrap leaves. -/
theorem Sound.looked (h : b.Sound) {current : Nat} {wait : Option ReadyWait} {m : Member}
    (hphase : b.phase = .awaiting current wait)
    {look : Look ReadyWait (Except WorkerError Unit) × Handle}
    (hlook : ({ m with handle := look.2 } : Member).Looked look.1) :
    (b.looked current m look).Sound := by
  obtain ⟨answer, handle⟩ := look
  -- Whether the bootstrap goes on waiting or goes to the next worker, the others fit as before.
  have hawaiting : ∀ {phase : Phase} {next : Nat} {wait : Option ReadyWait},
      phase = .awaiting next wait →
      (∀ {position : Nat} {n : Member},
        (b.members.set current { m with handle })[position]? = some n → n.Fits position phase) →
      Sound { b with members := b.members.set current { m with handle }, phase } := by
    rintro phase next wait rfl hfits
    exact ⟨hfits, ⟨next, fun hn ha => (hfits hn).eq_of_abandoned ha⟩, nofun⟩
  cases answer with
  | waiting wait =>
    refine hawaiting rfl fun {position n} hn => ?_
    rcases h.placed hphase hn with ⟨hlt, hready⟩ | ⟨rfl, rfl⟩ | ⟨hgt, hidle⟩
    · refine ⟨fun _ => hready, fun hgt => ?_, fun heq => ?_⟩
      all_goals omega
    · refine ⟨fun hlt => ?_, fun hgt => ?_, fun _ => hlook⟩
      all_goals omega
    · refine ⟨fun hlt => ?_, fun _ => hidle, fun heq => ?_⟩
      all_goals omega
  | done answer =>
    cases answer with
    | ok u =>
      refine hawaiting rfl fun {position n} hn => ?_
      rcases h.placed hphase hn with ⟨hlt, hready⟩ | ⟨rfl, rfl⟩ | ⟨hgt, hidle⟩
      · refine ⟨fun _ => hready, fun hgt => ?_, fun heq => ?_⟩
        all_goals omega
      · refine ⟨fun _ => hlook, fun hgt => ?_, fun heq => ?_⟩
        all_goals omega
      · exact ⟨fun hlt => by omega, fun _ => hidle, fun _ => hidle⟩
    | error error =>
      have hheld : ∀ {position : Nat} {n : Member},
          (b.members.set current { m with handle })[position]? = some n → n.Held := by
        intro position n hn
        rcases h.placed hphase hn with ⟨-, hready⟩ | ⟨-, rfl⟩ | ⟨-, hidle⟩
        · exact hready.held
        · exact hlook
        · exact hidle.held
      refine ⟨fun {position n} hn => ?_, ⟨0, fun hn ha => absurd ha (hheld hn).2⟩, fun he => ?_⟩
      · have hpast : n.Stopping (.ofWorker m.task.kind b.limit error) (position < 0) := by
          simpa only [Nat.not_lt_zero] using (hheld hn).stopping _
        exact hpast
      · obtain rfl : BootstrapError.ofWorker m.task.kind b.limit error = _ := Option.some.inj he
        refine ⟨rfl, fun hcancelled => ?_⟩
        cases error <;> cases hcancelled

/-- While the sequence waits for a worker it may notice a requested shutdown before it looks at the
worker, or after a look that has no answer. -/
theorem next_of_awaiting {current : Nat} {wait : Option ReadyWait} (requestFirst : Bool)
    (hphase : b.phase = .awaiting current wait) {m : Member} (hm : b.members[current]? = some m) :
    let c := b.looked current m (m.look b.now (.ofNanos (b.deadline - b.now)) wait)
    (b.tokens.program = true ∧ b.next requestFirst = b.fail .cancelled) ∨
      b.next requestFirst = c ∨
      (c.tokens.program = true ∧ (∃ wait, c.phase = .awaiting current (some wait)) ∧
        b.next requestFirst = c.fail .cancelled) := by
  intro c
  by_cases hfirst : (b.tokens.program && requestFirst) = true
  · have hnext : b.next requestFirst = b.fail .cancelled := by
      simp only [next, hphase, hm, if_pos hfirst]
    exact .inl ⟨(Bool.and_eq_true_iff.mp hfirst).1, hnext⟩
  · right
    cases hlook : (m.look b.now (.ofNanos (b.deadline - b.now)) wait).1 with
    | done answer =>
      have hnext : b.next requestFirst = c := by
        cases wait <;> simp only [Member.look] at hlook <;>
          simp only [next, hphase, hm, if_neg hfirst, c, Member.look, hlook]
      exact .inl hnext
    | waiting wait' =>
      have hnext : b.next requestFirst = if b.tokens.program then c.fail .cancelled else c := by
        cases wait <;> simp only [Member.look] at hlook <;>
          simp only [next, hphase, hm, if_neg hfirst, c, Member.look, hlook]
      rw [hnext]
      by_cases hprogram : b.tokens.program = true
      · refine .inr ⟨?_, ⟨wait', ?_⟩, if_pos hprogram⟩
        all_goals simp only [c, looked, hlook, hprogram]
      · exact .inl (if_neg hprogram)

/-- What the end of a wait for an end leaves to be waited for. -/
theorem Sound.drained (h : b.Sound) {current : Nat} {error : BootstrapError}
    (hphase : b.phase = .draining current error) {m : Member} (hm : b.members[current]? = some m)
    (hend : (m.handle.lookEnd m.task).isSome) :
    Sound { b with phase := .draining (current + 1) error } := by
  have hfits : ∀ {position : Nat} {n : Member}, b.members[position]? = some n →
      n.Stopping error (position < current) := fun hn => h.fits_phase hphase hn
  refine ⟨fun {position n} hn => ?_, h.alone, fun he => h.told (hphase ▸ he)⟩
  refine ⟨(hfits hn).remembered, (hfits hn).abandoned, fun hpast => ?_⟩
  rcases Nat.lt_succ_iff_lt_or_eq.mp hpast with hlt | rfl
  · exact (hfits hn).ended hlt
  · obtain rfl : m = n := Option.some.inj (hm.symm.trans hn)
    exact Member.ended_of_lookEnd (hfits hm).remembered hend

theorem lt_of_getElem?_eq_none {position current : Nat} {n : Member}
    (hnone : b.members[current]? = none) (hn : b.members[position]? = some n) :
    position < current := by
  have hposition := (List.getElem?_eq_some_iff.mp hn).1
  have hcurrent := List.getElem?_eq_none_iff.mp hnone
  omega

/-- When no worker is left to be waited for, all are ready. -/
theorem Sound.ready (h : b.Sound) {current : Nat} {wait : Option ReadyWait}
    (hphase : b.phase = .awaiting current wait) (hnone : b.members[current]? = none) :
    Sound { b with phase := .ready } := by
  refine ⟨fun hn => ?_, h.alone, nofun⟩
  exact (h.fits_phase hphase hn).1 (lt_of_getElem?_eq_none hnone hn)

/-- When no end is left to be waited for, the bootstrap has waited for all of them. -/
theorem Sound.failed (h : b.Sound) {current : Nat} {error : BootstrapError}
    (hphase : b.phase = .draining current error) (hnone : b.members[current]? = none) :
    Sound { b with phase := .failed error } := by
  refine ⟨fun hn => ?_, h.alone, fun he => h.told (hphase ▸ he)⟩
  have hfits := h.fits_phase hphase hn
  exact ⟨hfits.remembered, hfits.abandoned,
    fun _ => hfits.ended (lt_of_getElem?_eq_none hnone hn)⟩

/-- What the sequence does while it waits for a worker to be ready. -/
theorem Sound.next_awaiting (h : b.Sound) (requestFirst : Bool) {current : Nat}
    {wait : Option ReadyWait} (hphase : b.phase = .awaiting current wait) :
    (b.next requestFirst).Sound := by
  cases hm : b.members[current]? with
  | none =>
    have hnext : b.next requestFirst = { b with phase := .ready } := by
      simp only [Bootstrap.next, hphase, hm]
    rw [hnext]
    exact h.ready hphase hm
  | some m =>
    have hfits := h.fits_phase hphase hm
    have hlooked := h.looked hphase (m.looked_look hfits b.now (.ofNanos (b.deadline - b.now)))
    rcases next_of_awaiting requestFirst hphase hm with
      ⟨hprogram, hnext⟩ | hnext | ⟨hprogram, ⟨wait', hwait⟩, hnext⟩
    · rw [hnext]
      exact h.fail_cancelled hphase hprogram
    · rw [hnext]
      exact hlooked
    · rw [hnext]
      exact hlooked.fail_cancelled hwait hprogram

/-- What the sequence does while it waits for a worker to end. -/
theorem Sound.next_draining (h : b.Sound) (requestFirst : Bool) {current : Nat}
    {error : BootstrapError} (hphase : b.phase = .draining current error) :
    (b.next requestFirst).Sound := by
  cases hm : b.members[current]? with
  | none =>
    have hnext : b.next requestFirst = { b with phase := .failed error } := by
      simp only [Bootstrap.next, hphase, hm]
    rw [hnext]
    exact h.failed hphase hm
  | some m =>
    simp only [Bootstrap.next, hphase, hm]
    by_cases hend : (m.handle.lookEnd m.task).isSome = true
    · rw [if_pos hend]
      exact h.drained hphase hm hend
    · rw [if_neg hend]
      exact h

theorem Sound.next (h : b.Sound) (requestFirst : Bool) : (b.next requestFirst).Sound := by
  cases hphase : b.phase with
  | awaiting current wait => exact h.next_awaiting requestFirst hphase
  | draining current error => exact h.next_draining requestFirst hphase
  | failed error =>
    simp only [Bootstrap.next, hphase]
    exact h
  | ready =>
    simp only [Bootstrap.next, hphase]
    exact h

theorem Sound.act (h : b.Sound) (current : Nat) (e : Task.Event) : (b.act current e).Sound := by
  cases hm : b.members[current]? with
  | none =>
    simp only [Bootstrap.act, hm]
    exact h
  | some m =>
    simp only [Bootstrap.act, hm]
    -- A worker does not touch its handle, so that every handle is found where it was.
    have hset : ∀ {position : Nat} {n : Member}, (b.members.set current
        { m with task := m.task.step b.tokens.cancelled e })[position]? = some n →
        ∃ o, b.members[position]? = some o ∧ o.handle = n.handle ∧
          (o.Fits position b.phase → n.Fits position b.phase) := by
      intro position n hn
      by_cases heq : current = position
      · subst heq
        rw [List.getElem?_set_self', Option.map_eq_map, Option.map_eq_some_iff] at hn
        obtain ⟨_, -, rfl⟩ := hn
        exact ⟨m, hm, rfl, Member.Fits.act⟩
      · rw [List.getElem?_set_ne heq] at hn
        exact ⟨n, hn, rfl, id⟩
    obtain ⟨gone, halone⟩ := h.alone
    refine ⟨fun hn => ?_, ⟨gone, fun hn ha => ?_⟩, h.told⟩
    · obtain ⟨o, ho, -, hfits⟩ := hset hn
      exact hfits (h.fits ho)
    · obtain ⟨o, ho, hhandle, -⟩ := hset hn
      rw [Member.Abandoned, ← hhandle] at ha
      exact halone ho ha

/-- What every step preserves. -/
theorem Sound.step (h : b.Sound) (hs : Step b c) : c.Sound := by
  cases hs with
  | next requestFirst => exact h.next requestFirst
  | act position e => exact h.act position e
  | request => exact ⟨h.fits, h.alone, fun he => ⟨(h.told he).1, fun _ => rfl⟩⟩
  | wait d => exact ⟨h.fits, h.alone, h.told⟩

theorem Sound.reaches (h : b.Sound) (hr : b.Reaches c) : c.Sound := by
  induction hr with
  | refl => exact h
  | tail _ hs ih => exact ih.step hs

end Bootstrap

end ControlPlane
