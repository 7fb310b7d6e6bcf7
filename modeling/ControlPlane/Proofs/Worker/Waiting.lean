import ControlPlane.Worker.Handle
import Mathlib.Data.List.TakeWhile

/-!
# Waiting for a worker to be ready

A worker does things at its own times, and the owner of its handle looks at it at others. Only the
first call on a handle waits for the ready signal: whatever has come of it, every further call is
answered at once. The time limit of the first call holds as long as the worker keeps its signal; a
worker that gives the signal up and goes on running keeps the call waiting beyond it.

## Main definitions

- `Behaviour`: what a worker does, and when.
- `Behaviour.wait`, `Behaviour.waits`: what calls on the handle of such a worker come to.
- `Behaviour.Passed`: looks that find the signal held, before a deadline.
- `Behaviour.FirstCall`: what becomes of the first call, whatever the worker does.
- `Behaviour.Answers`: when an answer means that the worker is ready.

## Main statements

- `Behaviour.signal_mono`: a signal that was sent or dropped stays so.
- `Behaviour.lookOn_of_passed`: looks that find nothing change nothing.
- `Behaviour.course_of_first_call`: the course of the first call.
- `Behaviour.ready_of_answers`: a readiness that was answered can be relied on as long as every
  earlier call was answered so.
-/

namespace ControlPlane

/-! ## Tasks -/

namespace Task

variable {t : Task} {cancelled : Bool} {e : Event}

/-- An ended task does nothing more. -/
theorem step_of_hasEnded (h : t.hasEnded = true) : t.step cancelled e = t := by
  rw [hasEnded] at h
  cases e <;> exact if_pos h

/-- A signal is sent or dropped once. -/
theorem signal_step (h : t.signal ≠ .held) : (t.step cancelled e).signal = t.signal := by
  by_cases hended : t.hasEnded = true
  · rw [step_of_hasEnded hended]
  · have hopen : ¬t.outcome.isSome = true := hended
    cases e <;> simp only [step, if_neg hopen, resolve, if_neg h]

theorem kind_step : (t.step cancelled e).kind = t.kind := by
  have hresolve : ∀ signal, (t.resolve signal).kind = t.kind := by
    intro signal
    simp only [resolve]
    split <;> rfl
  by_cases hended : t.hasEnded = true
  · rw [step_of_hasEnded hended]
  · have hopen : ¬t.outcome.isSome = true := hended
    cases e <;> simp only [step, if_neg hopen, hresolve]

end Task

/-! ## Behaviours -/

/-- Something that a worker does. -/
structure Behaviour.Act where
  instant : Instant
  event : Task.Event
  /-- Whether the worker has been told to stop by then. -/
  cancelled : Bool := false

/-- What a worker does, in order; nothing happens before its instant. A worker that does not end
runs for ever. -/
structure Behaviour where
  kind : WorkerKind
  acts : List Behaviour.Act

/-- A call that waits for the ready signal: when it begins, for how long it may wait, and when it
looks at the worker after that. A call that has no answer after its last look is broken off. -/
structure Handle.Call where
  begun : Instant
  limit : Duration
  looks : List Instant

/-- What a call has come to. -/
abbrev Handle.Answer := Look ReadyWait (Except WorkerError Unit)

namespace Behaviour

variable {b : Behaviour} {h : Handle} {t u deadline : Instant} {limit : Duration}
  {looks before after : List Instant}

/-- The acts as steps of the task. -/
def steps (acts : List Act) (t : Task) : Task :=
  acts.foldl (fun t a => t.step a.cancelled a.event) t

/-- What can be seen of the worker at an instant. -/
def taskAt (b : Behaviour) (t : Instant) : Task :=
  steps (b.acts.takeWhile (·.instant ≤ t)) { kind := b.kind }

/-- A wait that is under way, with the looks at these instants, up to its answer. -/
def lookOn (b : Behaviour) : List Instant → Handle.Answer × Handle → Handle.Answer × Handle
  | t :: rest, (.waiting wait, h) => lookOn b rest (h.lookReady (b.taskAt t) t wait)
  | _, (.done answer, h) => (.done answer, h)
  | [], result => result

/-- What a call comes to. -/
def wait (b : Behaviour) (h : Handle) (c : Handle.Call) : Handle.Answer × Handle :=
  b.lookOn c.looks (h.beginWait (b.taskAt c.begun) c.begun c.limit)

/-- What calls come to that are made one after another. -/
def waits (b : Behaviour) : Handle → List Handle.Call → List Handle.Answer
  | _, [] => []
  | h, c :: rest => (b.wait h c).1 :: b.waits (b.wait h c).2 rest

/-! ## What stays -/

theorem signal_steps (acts : List Act) {t : Task} (h : t.signal ≠ .held) :
    (steps acts t).signal = t.signal := by
  induction acts generalizing t with
  | nil => rfl
  | cons a acts ih =>
    have hstep : (t.step a.cancelled a.event).signal = t.signal := Task.signal_step h
    rw [steps, List.foldl_cons, ← hstep]
    exact ih (hstep ▸ h)

theorem kind_taskAt (b : Behaviour) (t : Instant) : (b.taskAt t).kind = b.kind := by
  have hkind : ∀ acts (t : Task), (steps acts t).kind = t.kind := by
    intro acts
    induction acts with
    | nil => exact fun _ => rfl
    | cons a acts ih => exact fun t => (ih _).trans Task.kind_step
  exact hkind _ _

/-- What is seen later is what was seen before, and what has been done since. -/
theorem exists_steps (b : Behaviour) (h : t ≤ u) :
    ∃ acts, b.taskAt u = steps acts (b.taskAt t) := by
  have hfirst : b.acts.takeWhile (·.instant ≤ t) =
      (b.acts.takeWhile (·.instant ≤ u)).takeWhile (·.instant ≤ t) := by
    rw [List.takeWhile_takeWhile]
    congr 1
    funext a
    simp only [decide_eq_decide]
    exact ⟨fun ha => by simp [ha, Nat.le_trans ha h], fun ha => by simpa using ha.1⟩
  obtain ⟨acts, hacts⟩ := List.takeWhile_prefix (l := b.acts.takeWhile (·.instant ≤ u))
    (fun a => decide (a.instant ≤ t))
  refine ⟨acts, ?_⟩
  rw [taskAt, taskAt, ← hacts, ← hfirst, steps, List.foldl_append]
  rfl

/-- A signal that was sent or dropped stays so. -/
theorem signal_mono (hsignal : (b.taskAt t).signal ≠ .held) (h : t ≤ u) :
    (b.taskAt u).signal = (b.taskAt t).signal := by
  obtain ⟨acts, hacts⟩ := b.exists_steps h
  rw [hacts, signal_steps acts hsignal]

/-- A signal that is held has been held before. -/
theorem held_of_le (hsignal : (b.taskAt u).signal = .held) (h : t ≤ u) :
    (b.taskAt t).signal = .held := by
  by_contra hne
  exact hne ((signal_mono hne h).symm.trans hsignal)

/-! ## Looks -/

theorem lookOn_append (xs ys : List Instant) (r : Handle.Answer × Handle) :
    b.lookOn (xs ++ ys) r = b.lookOn ys (b.lookOn xs r) := by
  induction xs generalizing r with
  | nil =>
    obtain ⟨answer, h⟩ := r
    cases answer <;> rfl
  | cons t xs ih =>
    obtain ⟨answer, h⟩ := r
    cases answer with
    | waiting wait => exact ih _
    | done answer => cases ys <;> rfl

theorem lookOn_done (ts : List Instant) (answer : Except WorkerError Unit) (h : Handle) :
    b.lookOn ts (.done answer, h) = (.done answer, h) := by
  cases ts <;> rfl

/-- Looks that find the signal held, before a deadline. -/
def Passed (b : Behaviour) (deadline : Instant) (looks : List Instant) : Prop :=
  ∀ t ∈ looks, t < deadline ∧ (b.taskAt t).signal = .held

/-- Looks that find nothing change nothing. -/
theorem lookOn_of_passed (hlooks : b.Passed deadline looks) (limit : Duration) (h : Handle) :
    b.lookOn looks (.waiting (.signal deadline limit), h) =
      (.waiting (.signal deadline limit), h) := by
  induction looks with
  | nil => rfl
  | cons t rest ih =>
    obtain ⟨⟨hbefore, hheld⟩, hrest⟩ := List.forall_mem_cons.1 hlooks
    rw [lookOn, Handle.lookReady, hheld]
    simp only [Nat.not_le.2 hbefore, if_false]
    exact ih hrest

/-- Looks that do not find the end of the task do not end the wait for it. -/
theorem lookOn_of_running (hrunning : ∀ t ∈ looks, (b.taskAt t).outcome = none) (h : Handle) :
    b.lookOn looks (.waiting .ending, h) = (.waiting .ending, h) := by
  induction looks with
  | nil => rfl
  | cons t rest ih =>
    obtain ⟨ht, hrest⟩ := List.forall_mem_cons.1 hrunning
    rw [lookOn, Handle.lookReady, Handle.lookEnding, ht]
    exact ih hrest

/-- A wait for the end of the task is never answered `ok`. -/
theorem lookOn_ending_ne_ok (looks : List Instant) (h : Handle) :
    (b.lookOn looks (.waiting .ending, h)).1 ≠ .done (.ok ()) := by
  induction looks generalizing h with
  | nil => exact nofun
  | cons t rest ih =>
    rw [lookOn, Handle.lookReady, Handle.lookEnding]
    cases (b.taskAt t).outcome with
    | none => exact ih h
    | some outcome =>
      dsimp only
      rw [lookOn_done]
      cases outcome <;> exact nofun

/-! ## The first call -/

/-- The first call on a handle looks from its beginning on, up to its deadline. -/
theorem wait_first (b : Behaviour) (c : Handle.Call) :
    b.wait {} c = b.lookOn (c.begun :: c.looks)
      (.waiting (.signal (c.begun + c.limit.nanos) c.limit), { listening := false }) := rfl

/-- The first look of a call that does not find the signal held before the deadline finds it
sent. -/
def FindsSent (b : Behaviour) (c : Handle.Call) : Prop :=
  ∃ before t after, c.begun :: c.looks = before ++ t :: after ∧
    b.Passed (c.begun + c.limit.nanos) before ∧ (b.taskAt t).signal = .sent

/-- What becomes of the first call on a handle that begins at `begun` and may wait for `limit`. -/
structure FirstCall (b : Behaviour) (begun : Instant) (limit : Duration) : Prop where
  /-- If the worker still holds its signal when the time is over, no look before that is answered,
  and the first look after it is: the worker was not ready in time. -/
  punctual : ∀ {t}, begun + limit.nanos ≤ t → (b.taskAt t).signal = .held →
    ∀ {looks}, (∀ u ∈ looks, u < begun + limit.nanos) →
      (0 < limit.nanos →
        (b.wait {} ⟨begun, limit, looks⟩).1 = .waiting (.signal (begun + limit.nanos) limit)) ∧
      (b.wait {} ⟨begun, limit, looks ++ [t]⟩).1 =
        .done (.error (.readinessTimeout b.kind limit))
  /-- The call is answered `ok` just if it finds the signal sent in time. -/
  ready : ∀ {looks}, (b.wait {} ⟨begun, limit, looks⟩).1 = .done (.ok ()) ↔
    b.FindsSent ⟨begun, limit, looks⟩
  /-- If the first look that does not find the signal held finds it dropped, the call waits for the
  end of the task, however long that takes. -/
  overstays : ∀ {looks before t after}, begun :: looks = before ++ t :: after →
    b.Passed (begun + limit.nanos) before → (b.taskAt t).signal = .dropped →
    (∀ u ∈ t :: after, (b.taskAt u).outcome = none) →
    (b.wait {} ⟨begun, limit, looks⟩).1 = .waiting .ending
  /-- The end of the task answers such a call, and it is a failure. -/
  ends : ∀ {looks before t between u after outcome},
    begun :: looks = before ++ t :: between ++ u :: after →
    b.Passed (begun + limit.nanos) before → (b.taskAt t).signal = .dropped →
    (∀ v ∈ t :: between, (b.taskAt v).outcome = none) → (b.taskAt u).outcome = some outcome →
    (b.wait {} ⟨begun, limit, looks⟩).1 =
      match outcome with
      | .ok () => .done (.error (.exited b.kind "stopped before signalling readiness"))
      | .error e => .done (.error e)

/-- Looks that pass are followed by one that finds the signal dropped while the worker runs. -/
theorem lookOn_of_dropped {between : List Instant} (hbefore : b.Passed deadline before)
    (hdropped : (b.taskAt t).signal = .dropped)
    (hrunning : ∀ u ∈ t :: between, (b.taskAt u).outcome = none) :
    b.lookOn (before ++ t :: between)
        (.waiting (.signal deadline limit), { listening := false }) =
      (.waiting .ending, { listening := false, attached := false }) := by
  obtain ⟨ht, hbetween⟩ := List.forall_mem_cons.1 hrunning
  rw [lookOn_append, lookOn_of_passed hbefore, lookOn, Handle.lookReady, hdropped]
  simp only [if_true, Handle.lookEnding, ht]
  exact lookOn_of_running hbetween _

/-- Looks that are answered `ok` find the signal sent in time. -/
theorem exists_sent_of_lookOn
    (hok : (b.lookOn looks (.waiting (.signal deadline limit), h)).1 = .done (.ok ())) :
    ∃ before t after, looks = before ++ t :: after ∧ b.Passed deadline before ∧
      (b.taskAt t).signal = .sent := by
  induction looks with
  | nil => cases hok
  | cons t rest ih =>
    rw [lookOn, Handle.lookReady] at hok
    cases hsignal : (b.taskAt t).signal with
    | sent => exact ⟨[], t, rest, rfl, List.forall_mem_nil _, hsignal⟩
    | dropped =>
      rw [hsignal] at hok
      dsimp only at hok
      split at hok
      · exact absurd hok (lookOn_ending_ne_ok (t :: rest) _)
      · rw [lookOn_done] at hok
        cases hok
    | held =>
      rw [hsignal] at hok
      dsimp only at hok
      split at hok
      · rw [lookOn_done] at hok
        cases hok
      · next hearly =>
        obtain ⟨before, u, after, rfl, hbefore, hu⟩ := ih hok
        exact ⟨t :: before, u, after, rfl,
          List.forall_mem_cons.2 ⟨⟨Nat.not_le.1 hearly, hsignal⟩, hbefore⟩, hu⟩

/-- The first call on a handle is answered `ok` just if it finds the signal sent in time. -/
theorem wait_first_eq_ok_iff (b : Behaviour) (c : Handle.Call) :
    (b.wait {} c).1 = .done (.ok ()) ↔ b.FindsSent c := by
  rw [wait_first]
  refine ⟨exists_sent_of_lookOn, ?_⟩
  rintro ⟨before, t, after, hall, hbefore, hsent⟩
  rw [hall, lookOn_append, lookOn_of_passed hbefore, lookOn, Handle.lookReady, hsent]
  exact congrArg Prod.fst (lookOn_done ..)

/-- Looks that pass are followed by one that finds the signal held when the time is over. -/
theorem lookOn_of_late (hbefore : b.Passed deadline before)
    (hheld : (b.taskAt t).signal = .held) (hlate : deadline ≤ t) (h : Handle) :
    b.lookOn (before ++ t :: after) (.waiting (.signal deadline limit), h) =
      (.done (.error (.readinessTimeout b.kind limit)), h) := by
  rw [lookOn_append, lookOn_of_passed hbefore, lookOn, Handle.lookReady, hheld]
  simp only [if_pos hlate, kind_taskAt]
  exact lookOn_done ..

/-- The course of the first call on the handle of any worker. -/
theorem course_of_first_call (b : Behaviour) (begun : Instant) (limit : Duration) :
    FirstCall b begun limit := by
  refine ⟨fun {t} hlate hheld {looks} hlooks => ?punctual, wait_first_eq_ok_iff b _,
    fun {looks before t after} hall hbefore hdropped hrunning => ?overstays,
    fun {looks before t between u after outcome} hall hbefore hdropped hrunning hend => ?ends⟩
  case punctual =>
    have hpassed : ∀ us : List Instant, (∀ u ∈ us, u < begun + limit.nanos) →
        b.Passed (begun + limit.nanos) us := fun us hus u hu =>
      ⟨hus u hu, held_of_le hheld (Nat.le_trans (Nat.le_of_lt (hus u hu)) hlate)⟩
    rcases Nat.eq_zero_or_pos limit.nanos with hnone | hsome
    · -- Without any time, the first look is late already.
      have hbegun : begun + limit.nanos ≤ begun := Nat.le_of_eq (by rw [hnone, Nat.add_zero])
      refine ⟨fun hpos => absurd hnone (Nat.ne_of_gt hpos), ?_⟩
      rw [wait_first]
      exact congrArg Prod.fst (lookOn_of_late (hpassed [] (List.forall_mem_nil _))
        (held_of_le hheld (Nat.le_trans (Nat.le_add_right ..) hlate)) hbegun _)
    · have hbegun : b.Passed (begun + limit.nanos) (begun :: looks) :=
        hpassed _ (List.forall_mem_cons.2 ⟨Nat.lt_add_of_pos_right hsome, hlooks⟩)
      refine ⟨fun _ => ?_, ?_⟩
      · rw [wait_first, lookOn_of_passed hbegun]
      · rw [wait_first, ← List.cons_append]
        exact congrArg Prod.fst (lookOn_of_late hbegun hheld hlate _)
  case overstays =>
    rw [wait_first, hall, lookOn_of_dropped hbefore hdropped hrunning]
  case ends =>
    rw [wait_first, hall, lookOn_append, lookOn_of_dropped hbefore hdropped hrunning, lookOn,
      Handle.lookReady, Handle.lookEnding, hend]
    dsimp only
    rw [lookOn_done, kind_taskAt]
    cases outcome <;> rfl

/-- A worker that drops its signal at once and never ends. -/
def givenUp : Behaviour := ⟨.emitter, [{ instant := 0, event := .dropSignal }]⟩

/-- The first call on its handle may wait for a second. It is not answered when that is over, nor
ever after. -/
theorem unanswered_after_limit :
    (∀ t, (givenUp.taskAt t).signal ≠ .sent ∧ (givenUp.taskAt t).outcome = none) ∧
      ∀ looks, (givenUp.wait {} ⟨0, .ofSecs 1, looks⟩).1 = .waiting .ending := by
  have htask : ∀ t, givenUp.taskAt t = { kind := .emitter, signal := .dropped } := by
    intro t
    simp [taskAt, givenUp, steps, Task.step, Task.resolve]
  refine ⟨fun t => ?_, fun looks => ?_⟩
  · rw [htask]
    exact ⟨nofun, rfl⟩
  · have hrunning : ∀ t ∈ (0 : Instant) :: looks, (givenUp.taskAt t).outcome = none := by
      intro t _
      rw [htask]
    have hpassed : givenUp.Passed (0 + (Duration.ofSecs 1).nanos) [] := List.forall_mem_nil _
    have hdropped : (givenUp.taskAt 0).signal = .dropped := by rw [htask]
    rw [wait_first]
    exact congrArg Prod.fst (lookOn_of_dropped hpassed hdropped hrunning)

/-! ## All calls -/

theorem listening_lookReady (task : Task) (now : Instant) (wait : ReadyWait) :
    (h.lookReady task now wait).2.listening = h.listening := by
  have hending : ∀ h : Handle, (h.lookEnding task).2.listening = h.listening := by
    intro h
    rw [Handle.lookEnding]
    split
    · rfl
    · next outcome _ => cases outcome <;> rfl
  cases wait with
  | ending => exact hending h
  | signal deadline limit =>
    rw [Handle.lookReady]
    split
    · rfl
    · split
      · exact hending _
      · rfl
    · split <;> rfl

theorem listening_lookOn (looks : List Instant) (r : Handle.Answer × Handle) :
    (b.lookOn looks r).2.listening = r.2.listening := by
  induction looks generalizing r with
  | nil =>
    obtain ⟨answer, h⟩ := r
    cases answer <;> rfl
  | cons t rest ih =>
    obtain ⟨answer, h⟩ := r
    cases answer with
    | waiting wait => exact (ih _).trans (listening_lookReady ..)
    | done answer => rfl

/-- Whatever has come of it, nobody waits for the signal after a call. -/
theorem listening_wait (h : Handle) (c : Handle.Call) : (b.wait h c).2.listening = false := by
  rw [wait, listening_lookOn, Handle.beginWait]
  split
  · exact listening_lookReady ..
  · next hnot => exact Bool.eq_false_iff.2 hnot

/-- Calls after which nobody waits for the signal are all answered at once. -/
theorem waits_eq_map (hnot : h.listening = false) (calls : List Handle.Call) :
    b.waits h calls = calls.map fun _ => .done (.ok ()) := by
  induction calls with
  | nil => rfl
  | cons c rest ih =>
    have hwait : b.wait h c = (.done (.ok ()), h) := by
      rw [wait, Handle.beginWait, hnot]
      exact lookOn_done ..
    rw [waits, hwait, ih, List.map_cons]

/-- When the answers of calls on the handle of a worker mean that the worker is ready. -/
structure Answers (b : Behaviour) (calls : List Handle.Call) : Prop where
  /-- The first call is answered `ok` just if it finds the signal sent in time. -/
  first : (b.waits {} calls)[0]? = some (.done (.ok ())) ↔
    ∃ c rest, calls = c :: rest ∧ b.FindsSent c
  /-- Every further call is answered `ok`, whatever the worker has done and whatever has come of the
  calls before. -/
  further : ∀ {n : Nat}, 0 < n → n < calls.length →
    (b.waits {} calls)[n]? = some (.done (.ok ()))
  /-- If all calls before it were answered `ok` as well, a call that is answered `ok` comes from a
  worker that has sent its signal. -/
  sent : ∀ {n : Nat}, (∀ m ≤ n, (b.waits {} calls)[m]? = some (.done (.ok ()))) →
    ∃ c ∈ calls, ∃ t ∈ c.begun :: c.looks, (b.taskAt t).signal = .sent

/-- Readiness that was answered can be relied on as long as every call before was answered so. -/
theorem ready_of_answers (b : Behaviour) (calls : List Handle.Call) : Answers b calls := by
  have hfirst : (b.waits {} calls)[0]? = some (.done (.ok ())) ↔
      ∃ c rest, calls = c :: rest ∧ b.FindsSent c := by
    cases calls with
    | nil => simp [waits]
    | cons c rest => simp [waits, wait_first_eq_ok_iff]
  refine ⟨hfirst, fun {n} hpos hn => ?further, fun {n} hall => ?sent⟩
  case further =>
    obtain ⟨n, rfl⟩ := Nat.exists_eq_succ_of_ne_zero (Nat.ne_of_gt hpos)
    obtain ⟨c, rest, rfl⟩ := List.exists_cons_of_length_pos (Nat.zero_lt_of_lt hn)
    rw [waits, List.getElem?_cons_succ, waits_eq_map (listening_wait {} c), List.getElem?_map,
      List.getElem?_eq_getElem (Nat.lt_of_succ_lt_succ hn)]
    rfl
  case sent =>
    obtain ⟨c, rest, rfl, before, t, after, hall, -, hsent⟩ := hfirst.1 (hall 0 (Nat.zero_le n))
    refine ⟨c, List.mem_cons_self, t, ?_, hsent⟩
    rw [hall]
    exact List.mem_append_right _ List.mem_cons_self

/-- A worker that does nothing at all. -/
def mute : Behaviour := ⟨.emitter, []⟩

/-- The first call on its handle waits for a second and is answered that the worker was not ready in
time. The second call is answered that it is ready. -/
theorem ready_without_signal :
    mute.waits {} [⟨0, .ofSecs 1, [1000000000]⟩, ⟨1000000000, .ofSecs 1, []⟩] =
        [.done (.error (.readinessTimeout .emitter (.ofSecs 1))), .done (.ok ())] ∧
      ∀ t, (mute.taskAt t).signal = .held :=
  ⟨by decide, fun _ => rfl⟩

end Behaviour

end ControlPlane
