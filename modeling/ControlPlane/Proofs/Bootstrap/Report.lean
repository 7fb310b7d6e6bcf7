import ControlPlane.Proofs.Bootstrap.Incidents
import Mathlib.Data.List.Nodup

/-!
# What a supervision reports

The ends of the workers can be seen in another order than that in which they came, and whether a
worker may return depends on what has been seen before. The report is that all went well exactly if
every worker returned after it had been told to stop; otherwise it is the failure that was seen
first.

## Main definitions

- `Supervision.Unfolds`: what may come of a supervision, with all incidents since the bootstrap.
- `Supervision.FirstFailure`: the failure that was seen first.
- `Supervision.Accords`: how a supervision stands to its incidents.
- `Supervision.Conclusive`: what its report tells of them.

## Main statements

- `Supervision.observe_cases`: what it means to see an end.
- `Supervision.Unfolds.accords`: what every step preserves.
- `Supervision.conclusive_of_run`: the report tells what has happened.
-/

namespace ControlPlane

open Incident

namespace Supervision

variable {b₀ : Bootstrap} {s t : Supervision} {h l : List Incident} {initially : Bool}
  {kinds : List WorkerKind} {position : Nat} {e : WorkerError}

/-- The tasks of the workers. -/
def tasks (s : Supervision) : List Task := s.members.map (·.task)

/-- What is to be told when the supervision looks for the end of the worker at `position`. -/
def sight (s : Supervision) (position : Nat) : Option Incident :=
  if position ∈ s.unseen ∧ position ∉ (s.observe position).unseen then some (.seen position)
  else none

/-- What may come of the supervision of workers that a bootstrap has made ready, with all incidents
since the bootstrap was started. -/
inductive Unfolds (b₀ : Bootstrap) : List Incident → Supervision → Prop
  | handed {h : List Incident} {b : Bootstrap} :
    b₀.Unfolds h b → b.phase = .ready → Unfolds b₀ h (ofMembers b.tokens b.members)
  | observe (position : Nat) {h : List Incident} {s : Supervision} :
    Unfolds b₀ h s → Unfolds b₀ (h ++ (s.sight position).toList) (s.observe position)
  | act (position : Nat) (e : Task.Event) {h : List Incident} {s : Supervision} :
    Unfolds b₀ h s →
      Unfolds b₀ (h ++ (ofEvent s.tasks s.tokens.cancelled position e).toList) (s.act position e)
  | request {h : List Incident} {s : Supervision} :
    Unfolds b₀ h s → Unfolds b₀ (h ++ [.requested]) { s with tokens.program := true }
  | stop {h : List Incident} {s : Supervision} :
    Unfolds b₀ h s → Unfolds b₀ (h ++ [.stopped]) { s with tokens.set := true }

/-- Whatever can be reached has its incidents. -/
theorem exists_unfolds {b : Bootstrap} (hb : b₀.Reaches b) (hready : b.phase = .ready)
    (hs : (ofMembers b.tokens b.members).Reaches s) : ∃ h, Unfolds b₀ h s := by
  induction hs with
  | refl =>
    obtain ⟨h, hu⟩ := Bootstrap.exists_unfolds hb
    exact ⟨h, .handed hu hready⟩
  | tail _ hstep ih =>
    obtain ⟨h, ih⟩ := ih
    cases hstep with
    | observe position => exact ⟨_, ih.observe position⟩
    | act position e => exact ⟨_, ih.act position e⟩
    | request => exact ⟨_, ih.request⟩
    | stop => exact ⟨_, ih.stop⟩

/-- The end of the worker at `position` was the first to be seen that was not clean, and the worker
failed with `e`. -/
def FirstFailure (kinds : List WorkerKind) (h : List Incident) (e : WorkerError) : Prop :=
  ∃ before position after kind ending cancelled,
    seenIn h = before ++ position :: after ∧ (∀ earlier ∈ before, Clean h earlier) ∧
      kinds[position]? = some kind ∧ endOf h position = some (ending, cancelled) ∧
      ending.CountsAs kind cancelled e

/-! ## Steps -/

/-- Either there is no end of the worker at `position` to be seen, or it is seen. -/
theorem observe_cases (hs : s.Sound) (position : Nat) :
    (s.observe position = s ∧
      (position ∈ s.unseen → ∀ t, s.tasks[position]? = some t → t.outcome = none)) ∨
      ∃ t outcome, position ∈ s.unseen ∧ s.tasks[position]? = some t ∧ t.outcome = some outcome ∧
        s.observe position = s.record position outcome := by
  by_cases hunseen : position ∈ s.unseen
  · cases hm : s.members[position]? with
    | none =>
      refine .inl ⟨by simp only [observe, if_pos hunseen, hm], fun _ t ht => ?_⟩
      rw [tasks, List.getElem?_map, hm] at ht
      cases ht
    | some m =>
      have ht : s.tasks[position]? = some m.task := by
        rw [tasks, List.getElem?_map, hm]
        rfl
      have hlook : m.handle.lookEnd m.task = m.task.outcome := by
        rw [hs.held hm]
        rfl
      cases houtcome : m.task.outcome with
      | none =>
        refine .inl ⟨by simp only [observe, if_pos hunseen, hm, hlook, houtcome], fun _ t ht' => ?_⟩
        obtain rfl := Option.some.inj (ht.symm.trans ht')
        exact houtcome
      | some outcome =>
        refine .inr ⟨m.task, outcome, hunseen, ht, houtcome, ?_⟩
        simp only [observe, if_pos hunseen, hm, hlook, houtcome]
  · exact .inl ⟨by simp only [observe, if_neg hunseen], fun h => absurd h hunseen⟩

theorem unseen_record (s : Supervision) (position : Nat) (outcome : Except WorkerError Unit) :
    (s.record position outcome).unseen = s.unseen.erase position := by
  cases outcome <;> rfl

theorem tasks_act (s : Supervision) (position : Nat) (e : Task.Event) :
    (s.act position e).tasks = s.tasks.modify position (·.step s.tokens.cancelled e) := by
  rw [tasks, members_act, tasks, map_task_modify]

theorem Unfolds.sound (h₀ : b₀.Sound) (hu : Unfolds b₀ h s) : s.Sound := by
  induction hu with
  | handed hb hready => exact sound_ofMembers _ (h₀.reaches hb.reaches) hready
  | observe position _ ih => exact ih.observe position
  | act position e _ ih => exact ih.act position e
  | request _ ih => exact ih.step (.request _)
  | stop _ ih => exact ih.step (.stop _)

/-! ## The supervision and its incidents -/

/-- The end of some worker was seen that was not clean. -/
def FailureSeen (h : List Incident) : Prop := ∃ i ∈ seenIn h, ¬Clean h i

/-- What a supervision remembers of the ends that it has seen. -/
structure Remembers (kinds : List WorkerKind) (h : List Incident) (s : Supervision) : Prop where
  nodup : s.unseen.Nodup
  mem_unseen : ∀ position, position ∈ s.unseen ↔ position < kinds.length ∧ position ∉ seenIn h
  /-- Only the end of a worker that has ended is seen. -/
  ended : ∀ position ∈ seenIn h, position < kinds.length ∧ (endOf h position).isSome
  clean : s.failure = none → ¬FailureSeen h
  failed : ∀ e, s.failure = some e → FirstFailure kinds h e

theorem FirstFailure.failureSeen (hf : FirstFailure kinds h e) : FailureSeen h := by
  obtain ⟨before, position, after, kind, ending, cancelled, hseen, -, -, hend, hcounts⟩ := hf
  refine ⟨position, by simp [hseen], fun hclean => ?_⟩
  obtain ⟨rfl, rfl⟩ := Prod.mk.inj (Option.some.inj (hend.symm.trans hclean))
  cases hcounts

/-- What was seen first stays so, whatever happens then. -/
theorem FirstFailure.append (hf : FirstFailure kinds h e) (l : List Incident) :
    FirstFailure kinds (h ++ l) e := by
  obtain ⟨before, position, after, kind, ending, cancelled, hseen, hbefore, hkind, hend, hcounts⟩ :=
    hf
  refine ⟨before, position, after ++ seenIn l, kind, ending, cancelled, ?_, fun i hi => ?_, hkind,
    ?_, hcounts⟩
  · rw [seenIn_append, hseen, List.append_assoc, List.cons_append]
  · have hclean := hbefore i hi
    exact (clean_append_iff (by rw [hclean]; rfl) l).2 hclean
  · rw [endOf_append_of_isSome (by rw [hend]; rfl), hend]

theorem Remembers.failureSeen_append_iff (hr : s.Remembers kinds h) (hl : seenIn l = []) :
    FailureSeen (h ++ l) ↔ FailureSeen h := by
  rw [FailureSeen, seenIn_append, hl, List.append_nil]
  refine exists_congr fun i => and_congr_right fun hi => not_congr ?_
  exact clean_append_iff (hr.ended i hi).2 l

/-- While no end is seen, there is nothing new to remember. -/
theorem Remembers.append (hr : s.Remembers kinds h) (hl : seenIn l = [])
    (hunseen : t.unseen = s.unseen) (hfailure : t.failure = s.failure) :
    t.Remembers kinds (h ++ l) := by
  have hseen : seenIn (h ++ l) = seenIn h := by rw [seenIn_append, hl, List.append_nil]
  constructor
  · rw [hunseen]
    exact hr.nodup
  · intro position
    rw [hunseen, hseen]
    exact hr.mem_unseen position
  · intro position hposition
    rw [hseen] at hposition
    obtain ⟨hlt, hended⟩ := hr.ended position hposition
    rw [endOf_append_of_isSome hended]
    exact ⟨hlt, hended⟩
  · intro hnone
    rw [hr.failureSeen_append_iff hl]
    exact hr.clean (hfailure ▸ hnone)
  · intro e he
    exact (hr.failed e (hfailure ▸ he)).append l

/-- How a supervision stands to its incidents; `initially` says whether the shutdown of the program
was requested before the bootstrap. -/
structure Accords (initially : Bool) (kinds : List WorkerKind) (h : List Incident)
    (s : Supervision) : Prop where
  kept : s.tasks.map (·.kind) = kinds
  shown : Shown s.tasks h
  remembers : s.Remembers kinds h
  program : s.tokens.program = true ↔ initially = true ∨ .requested ∈ h
  set : s.tokens.set = true ↔ .stopped ∈ h ∨ FailureSeen h
  informed : Informed initially h

theorem Accords.cancelled_iff (ha : s.Accords initially kinds h) :
    s.tokens.cancelled = true ↔ Told initially h := by
  rw [Tokens.cancelled, Bool.or_eq_true, ha.program, ha.set]
  rfl

/-- A bootstrap hands its workers over with nothing seen of their ends. -/
theorem accords_ofMembers {b : Bootstrap} (ha : b.Accords initially h) (hready : b.phase = .ready) :
    (ofMembers b.tokens b.members).Accords initially b.kinds h := by
  obtain ⟨hset, hinformed⟩ := ha.unfailed (by rw [hready]; rfl)
  have hunseen : ¬FailureSeen h := by
    rintro ⟨i, hi, -⟩
    rw [ha.unseen] at hi
    cases hi
  refine ⟨List.map_map .., ha.shown, ⟨List.nodup_range, fun position => ?_, ?_, fun _ => hunseen,
    by simp [ofMembers]⟩, ha.program, ?_, hinformed⟩
  · simp [ofMembers, ha.unseen, Bootstrap.kinds]
  · simp [ha.unseen]
  · simp [ofMembers, hset, hunseen, ha.unstopped]

theorem Accords.act (ha : s.Accords initially kinds h) (position : Nat) (e : Task.Event) :
    (s.act position e).Accords initially kinds
      (h ++ (ofEvent s.tasks s.tokens.cancelled position e).toList) := by
  have htokens : (s.act position e).tokens = s.tokens := by
    unfold Supervision.act
    split <;> rfl
  have hfailure : (s.act position e).failure = s.failure := by
    unfold Supervision.act
    split <;> rfl
  constructor
  · rw [tasks_act, map_kind_modify]
    exact ha.kept
  · rw [tasks_act]
    exact ha.shown.act _ position e
  · exact ha.remembers.append seenIn_ofEvent (unseen_act s position e) hfailure
  · rw [mem_append_ofEvent_iff (x := .requested) nofun, htokens]
    exact ha.program
  · rw [mem_append_ofEvent_iff (x := .stopped) nofun, htokens,
      ha.remembers.failureSeen_append_iff seenIn_ofEvent]
    exact ha.set
  · exact ha.informed.append_event ha.cancelled_iff

theorem Accords.request (ha : s.Accords initially kinds h) :
    Accords initially kinds (h ++ [.requested]) { s with tokens.program := true } where
  kept := ha.kept
  shown := ha.shown.append fun _ => rfl
  remembers := ha.remembers.append rfl rfl rfl
  program := by simp
  set := by
    have hstopped : .stopped ∈ h ++ [.requested] ↔ .stopped ∈ h := by simp
    rw [ha.remembers.failureSeen_append_iff rfl, hstopped]
    exact ha.set
  informed := ha.informed.append (o := some .requested) nofun

theorem Accords.stop (ha : s.Accords initially kinds h) :
    Accords initially kinds (h ++ [.stopped]) { s with tokens.set := true } where
  kept := ha.kept
  shown := ha.shown.append fun _ => rfl
  remembers := ha.remembers.append rfl rfl rfl
  program := by
    have hrequested : .requested ∈ h ++ [.stopped] ↔ .requested ∈ h := by simp
    rw [hrequested]
    exact ha.program
  set := by simp
  informed := ha.informed.append (o := some .stopped) nofun

/-! ### An end is seen -/

theorem endOf_append_seen (h : List Incident) (position i : Nat) :
    endOf (h ++ [.seen position]) i = endOf h i := by
  rw [endOf_append]
  exact Option.or_none

theorem clean_append_seen (h : List Incident) (position i : Nat) :
    Clean (h ++ [.seen position]) i ↔ Clean h i := by
  rw [Clean, Clean, endOf_append_seen]

theorem failureSeen_append_seen (h : List Incident) (position : Nat) :
    FailureSeen (h ++ [.seen position]) ↔ FailureSeen h ∨ ¬Clean h position := by
  have hseen : seenIn (h ++ [.seen position]) = seenIn h ++ [position] := seenIn_append ..
  simp only [FailureSeen, hseen, clean_append_seen, List.mem_append, List.mem_singleton]
  constructor
  · rintro ⟨i, hi | rfl, hclean⟩
    · exact .inl ⟨i, hi, hclean⟩
    · exact .inr hclean
  · rintro (⟨i, hi, hclean⟩ | hclean)
    · exact ⟨i, .inl hi, hclean⟩
    · exact ⟨position, .inr rfl, hclean⟩

/-- How the work has ended of a worker whose task shows an outcome. -/
theorem Accords.exists_end (ha : s.Accords initially kinds h) {t : Task}
    (ht : s.tasks[position]? = some t) {outcome : Except WorkerError Unit}
    (houtcome : t.outcome = some outcome) :
    kinds[position]? = some t.kind ∧ ∃ ending cancelled,
      endOf h position = some (ending, cancelled) ∧ ending.outcome t.kind cancelled = outcome := by
  have hend := ha.shown ht
  rw [houtcome, eq_comm, Option.map_eq_some_iff] at hend
  obtain ⟨⟨ending, cancelled⟩, hend, hsame⟩ := hend
  refine ⟨?_, ending, cancelled, hend, hsame⟩
  rw [← ha.kept, List.getElem?_map, ht]
  rfl

/-- What a supervision remembers of an end, besides how it was. -/
theorem Remembers.unseen_erase (hr : s.Remembers kinds h) (hposition : position ∈ s.unseen)
    (hended : (endOf h position).isSome) :
    (∀ i, i ∈ s.unseen.erase position ↔
      i < kinds.length ∧ i ∉ seenIn (h ++ [.seen position])) ∧
    ∀ i ∈ seenIn (h ++ [.seen position]),
      i < kinds.length ∧ (endOf (h ++ [.seen position]) i).isSome := by
  have hseen : seenIn (h ++ [.seen position]) = seenIn h ++ [position] := seenIn_append ..
  rw [hseen]
  constructor
  · intro i
    rw [hr.nodup.mem_erase_iff, hr.mem_unseen, List.mem_append, List.mem_singleton]
    tauto
  · intro i hi
    rw [endOf_append_seen]
    rcases List.mem_append.1 hi with hi | hi
    · exact hr.ended i hi
    · obtain rfl := List.mem_singleton.1 hi
      exact ⟨((hr.mem_unseen i).1 hposition).1, hended⟩

/-- A worker is seen to have ended as it should. -/
theorem Accords.record_ok (ha : s.Accords initially kinds h) (hposition : position ∈ s.unseen)
    (hclean : Clean h position) :
    (s.record position (.ok ())).Accords initially kinds (h ++ [.seen position]) := by
  have hfailure : FailureSeen (h ++ [.seen position]) ↔ FailureSeen h := by
    rw [failureSeen_append_seen, or_iff_left (not_not_intro hclean)]
  obtain ⟨hunseen, hended⟩ :=
    ha.remembers.unseen_erase hposition (by rw [hclean]; rfl)
  refine ⟨ha.kept, ha.shown.append fun _ => rfl, ⟨ha.remembers.nodup.erase position, hunseen,
    hended, ?_, fun e he => (ha.remembers.failed e he).append _⟩, ?_, ?_,
    ha.informed.append (o := some (.seen position)) nofun⟩
  · rw [hfailure]
    exact ha.remembers.clean
  · simp [record, ha.program]
  · simp [record, hfailure, ha.set]

/-- A worker is seen to have failed. The failure is kept if it is the first, and all workers are
told to stop. -/
theorem Accords.record_error (ha : s.Accords initially kinds h) (hposition : position ∈ s.unseen)
    {kind : WorkerKind} (hkind : kinds[position]? = some kind) {ending : Ending} {cancelled : Bool}
    (hend : endOf h position = some (ending, cancelled))
    (hcounts : ending.CountsAs kind cancelled e) :
    (s.record position (.error e)).Accords initially kinds (h ++ [.seen position]) := by
  have hunclean : ¬Clean h position := by
    intro hclean
    obtain ⟨rfl, rfl⟩ := Prod.mk.inj (Option.some.inj (hend.symm.trans hclean))
    cases hcounts
  have hfailure : FailureSeen (h ++ [.seen position]) :=
    (failureSeen_append_seen h position).2 (.inr hunclean)
  obtain ⟨hunseen, hended⟩ := ha.remembers.unseen_erase hposition (by rw [hend]; rfl)
  have hfirst : FirstFailure kinds (h ++ [.seen position]) (s.failure.getD e) := by
    cases hnone : s.failure with
    | some first => exact (ha.remembers.failed first hnone).append _
    | none =>
      -- Whatever was seen before was clean, for nothing is kept of it.
      refine ⟨seenIn h, position, [], kind, ending, cancelled, seenIn_append .., fun i hi => ?_,
        hkind, ?_, hcounts⟩
      · rw [clean_append_seen]
        by_contra hother
        exact ha.remembers.clean hnone ⟨i, hi, hother⟩
      · rw [endOf_append_seen, hend]
  refine ⟨ha.kept, ha.shown.append fun _ => rfl, ⟨ha.remembers.nodup.erase position, hunseen,
    hended, nofun, fun first hsome => ?_⟩, ?_, ?_,
    ha.informed.append (o := some (.seen position)) nofun⟩
  · obtain rfl := Option.some.inj hsome
    exact hfirst
  · simp [record, ha.program]
  · simp [record, hfailure]

theorem Accords.observe (ha : s.Accords initially kinds h) (hs : s.Sound) (position : Nat) :
    (s.observe position).Accords initially kinds (h ++ (s.sight position).toList) := by
  rcases observe_cases hs position with
    ⟨hsame, -⟩ | ⟨t, outcome, hunseen, ht, houtcome, hrecord⟩
  · have hsight : s.sight position = none := by
      rw [sight, hsame, if_neg (fun hboth => hboth.2 hboth.1)]
    rw [hsight, hsame, Option.toList_none, List.append_nil]
    exact ha
  · have hsight : s.sight position = some (.seen position) := by
      rw [sight, hrecord, unseen_record, if_pos]
      exact ⟨hunseen, ha.remembers.nodup.not_mem_erase⟩
    rw [hsight, hrecord]
    obtain ⟨hkind, ending, cancelled, hend, hsame⟩ := ha.exists_end ht houtcome
    cases outcome with
    | ok u =>
      have hclean : (ending, cancelled) = (.returned, true) := Ending.outcome_eq_ok_iff.1 hsame
      exact ha.record_ok hunseen (hend.trans (congrArg some hclean))
    | error e => exact ha.record_error hunseen hkind hend (Ending.outcome_eq_error_iff.1 hsame)

/-! ## Runs -/

section Run

variable {now : Instant} {limit : Duration} {given : List PendingWorker}

/-- What always holds of a supervision and its incidents. -/
theorem Unfolds.accords (hu : Unfolds (.start now initially limit given) h s) :
    s.Accords initially ((Bootstrap.startOrder (·.kind) given).map (·.kind)) h := by
  have h₀ := Bootstrap.sound_start now initially limit given
  induction hu with
  | @handed h b hb hready =>
    rw [← Bootstrap.kinds_of_started hb.reaches]
    exact accords_ofMembers hb.accords hready
  | observe position hu ih => exact ih.observe (hu.sound h₀) position
  | act position e _ ih => exact ih.act position e
  | request _ ih => exact ih.request
  | stop _ ih => exact ih.stop

/-- When all workers have ended, every look for an end finds it. -/
theorem unseen_observe (ha : s.Accords initially kinds h) (hs : s.Sound)
    (hended : ∀ i < kinds.length, (endOf h i).isSome) (position : Nat) :
    (s.observe position).unseen = s.unseen.erase position := by
  rcases observe_cases hs position with ⟨hsame, hrunning⟩ | ⟨t, outcome, -, -, -, hrecord⟩
  · rw [hsame, List.erase_of_not_mem]
    intro hunseen
    have hlt := ((ha.remembers.mem_unseen position).1 hunseen).1
    have hlength : position < s.tasks.length := by
      rw [← ha.kept, List.length_map] at hlt
      exact hlt
    have ht := List.getElem?_eq_getElem hlength
    have hshown := ha.shown.hasEnded ht
    rw [hended position hlt, Task.hasEnded, hrunning hunseen _ ht] at hshown
    cases hshown
  · rw [hrecord, unseen_record]

/-- When all workers have ended, it is left to be seen what has not been looked for. -/
theorem unseen_observe_all (ha : s.Accords initially kinds h) (hs : s.Sound)
    (hended : ∀ i < kinds.length, (endOf h i).isSome) (order : List Nat) :
    (order.foldl observe s).unseen = s.unseen.diff order := by
  induction order generalizing s h with
  | nil => rfl
  | cons position rest ih =>
    have hstill : ∀ i < kinds.length, (endOf (h ++ (s.sight position).toList) i).isSome := by
      intro i hi
      rw [endOf_append_of_isSome (hended i hi)]
      exact hended i hi
    rw [List.foldl_cons, ih (ha.observe hs position) (hs.observe position) hstill,
      unseen_observe ha hs hended, List.diff_cons]

/-- What the report of a supervision tells, and what it does on the way to it. -/
structure Conclusive (initially : Bool) (kinds : List WorkerKind) (h : List Incident)
    (s : Supervision) : Prop where
  /-- There is no report before every worker has ended. -/
  ended : s.outcome?.isSome → s.tasks.map (·.kind) = kinds ∧ (∀ t ∈ s.tasks, t.hasEnded = true) ∧
    ∀ position < kinds.length, (endOf h position).isSome
  /-- When every worker has ended, the report is there once each has been looked for, in any
  order. -/
  reports : (∀ position < kinds.length, (endOf h position).isSome) →
    ∀ order : List Nat, (∀ position < kinds.length, position ∈ order) →
      (order.foldl observe s).outcome?.isSome
  /-- All is well exactly if every worker returned after it had been told to stop. -/
  ok : ∀ report, s.outcome? = some report →
    (report = .ok () ↔ ∀ position < kinds.length, Clean h position)
  failed : ∀ e, s.outcome? = some (.error e) → FirstFailure kinds h e
  /-- Whether a worker had been told to stop when it ended depends on what was seen by then. -/
  informed : Informed initially h
  /-- The workers are told to stop as soon as a failure is seen. -/
  set : s.tokens.set = true ↔ .stopped ∈ h ∨ FailureSeen h
  /-- The program is not: only a request stops it. -/
  program : s.tokens.program = true ↔ initially = true ∨ .requested ∈ h

theorem unseen_of_outcome? {report : Except WorkerError Unit} (hreport : s.outcome? = some report) :
    s.unseen = [] ∧ report = match s.failure with
      | none => .ok ()
      | some e => .error e := by
  unfold outcome? at hreport
  split at hreport
  · next hempty => exact ⟨List.isEmpty_iff.1 hempty, (Option.some.inj hreport).symm⟩
  · cases hreport

/-- The report of a supervision tells what has happened: it comes when all workers have ended, and
says that all is well, or which failure was seen first. -/
theorem conclusive_of_run (hu : Unfolds (.start now initially limit given) h s) :
    s.Conclusive initially ((Bootstrap.startOrder (·.kind) given).map (·.kind)) h := by
  have ha := hu.accords
  have hs := hu.sound (Bootstrap.sound_start now initially limit given)
  have hseen : s.unseen = [] →
      ∀ position < ((Bootstrap.startOrder (·.kind) given).map (·.kind)).length,
        position ∈ seenIn h := by
    intro hnone position hlt
    by_contra hunseen
    have hmem := (ha.remembers.mem_unseen position).2 ⟨hlt, hunseen⟩
    rw [hnone] at hmem
    cases hmem
  refine ⟨fun hreport => ?_, fun hended order horder => ?_, fun report hreport => ?_,
    fun e hreport => ?_, ha.informed, ha.set, ha.program⟩
  · obtain ⟨report, hreport⟩ := Option.isSome_iff_exists.1 hreport
    refine ⟨ha.kept, fun t ht => ?_, fun position hlt => ?_⟩
    · obtain ⟨m, hm, rfl⟩ := List.mem_map.1 ht
      obtain ⟨position, hposition⟩ := List.mem_iff_getElem?.1 hm
      exact hs.ended hreport hposition
    · exact (ha.remembers.ended position (hseen (unseen_of_outcome? hreport).1 position hlt)).2
  · have hnone : (order.foldl observe s).unseen = [] := by
      rw [unseen_observe_all ha hs hended]
      refine List.eq_nil_iff_forall_not_mem.2 fun position hposition => ?_
      obtain ⟨hunseen, hother⟩ := (List.Nodup.mem_sdiff_iff ha.remembers.nodup).1 hposition
      exact hother (horder position ((ha.remembers.mem_unseen position).1 hunseen).1)
    rw [outcome?, hnone]
    rfl
  · obtain ⟨hnone, rfl⟩ := unseen_of_outcome? hreport
    cases hfailure : s.failure with
    | none =>
      refine ⟨fun _ position hlt => ?_, fun _ => rfl⟩
      by_contra hunclean
      exact ha.remembers.clean hfailure ⟨position, hseen hnone position hlt, hunclean⟩
    | some e =>
      refine ⟨by simp, fun hall => ?_⟩
      obtain ⟨position, hposition, hunclean⟩ := (ha.remembers.failed e hfailure).failureSeen
      exact absurd (hall position (ha.remembers.ended position hposition).1) hunclean
  · obtain ⟨-, hsame⟩ := unseen_of_outcome? hreport
    cases hfailure : s.failure with
    | none =>
      rw [hfailure] at hsame
      cases hsame
    | some first =>
      rw [hfailure] at hsame
      obtain rfl := Except.error.inj hsame
      exact ha.remembers.failed e hfailure

/-- An emitter returns before anybody has told it to, and then the fabric manager panics. It is the
panic that is seen first, and it is reported. -/
theorem panic_reported : ∃ h s,
    Unfolds (.start 0 false (.ofSecs 30) [⟨.emitter, "e"⟩, ⟨.fabricManager, "f"⟩]) h s ∧
      s.Conclusive false [.fabricManager, .emitter] h ∧ seenIn h = [0, 1] ∧
      endOf h 1 = some (.returned, false) ∧
      s.outcome? = some (.error (.panicked .fabricManager "no link")) := by
  have h₁ : Bootstrap.Unfolds
      (.start 0 false (.ofSecs 30) [⟨.emitter, "e"⟩, ⟨.fabricManager, "f"⟩]) _ _ :=
    .act 1 .signal (.act 0 .signal .refl)
  have h₂ := Unfolds.handed (((h₁.next false).next false).next false) (by decide +kernel)
  have h₃ := (h₂.act 1 (.finish .returned)).act 0 (.finish (.panicked (some "no link")))
  have h₄ := (h₃.observe 0).observe 1
  exact ⟨_, _, h₄, conclusive_of_run h₄, by decide +kernel, by decide +kernel, by decide +kernel⟩

end Run

end Supervision

end ControlPlane
