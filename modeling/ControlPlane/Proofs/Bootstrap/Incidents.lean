import ControlPlane.Proofs.Bootstrap.Supervision

/-!
# What happens to workers

A task shows how it has ended, but not whether the worker had been told to stop by then, nor in
which order the ends of several workers were seen. The incidents tell that: what has happened to the
workers, from the start of the bootstrap on, in order.

## Main definitions

- `Ending.CountsAs`: why a worker counts as failed.
- `Incident`: something that has happened.
- `Incident.endOf`, `Incident.seenIn`: what incidents tell of the ends of workers.
- `Incident.Told`: the workers have been told to stop.
- `Bootstrap.Unfolds`: what may come of a bootstrap, with its incidents.

## Main statements

- `Ending.outcome_eq_error_iff`: a task ends with an error for the reasons of `Ending.CountsAs`.
- `Bootstrap.exists_unfolds`: whatever can be reached has its incidents.
- `Bootstrap.Unfolds.accords`: the workers show what the incidents tell.
-/

namespace ControlPlane

/-! ## How work ends -/

namespace Ending

variable {kind : WorkerKind} {cancelled : Bool} {ending : Ending} {e : WorkerError}

/-- Why a worker counts as failed whose work has ended like that; the flag says whether it had been
told to stop. -/
inductive CountsAs (kind : WorkerKind) : Ending → Bool → WorkerError → Prop
  | failed (cancelled : Bool) (e : WorkerError) : CountsAs kind (.failed e) cancelled e
  /-- It has returned although nobody had told it to stop. -/
  | returned : CountsAs kind .returned false (.exited kind "stopped without being cancelled")
  | panicked (cancelled : Bool) (reason : String) :
    CountsAs kind (.panicked (some reason)) cancelled (.panicked kind reason)
  /-- It has panicked with something that is not a text. -/
  | unexplained (cancelled : Bool) :
    CountsAs kind (.panicked none) cancelled (.panicked kind "unknown panic")

theorem outcome_eq_error_iff :
    ending.outcome kind cancelled = .error e ↔ ending.CountsAs kind cancelled e := by
  constructor
  · intro h
    cases ending with
    | failed error =>
      obtain rfl : error = e := Except.error.inj h
      exact .failed cancelled error
    | returned =>
      cases cancelled with
      | true => cases h
      | false =>
        obtain rfl := Except.error.inj h
        exact .returned
    | panicked reason =>
      obtain rfl := Except.error.inj h
      cases reason with
      | none => exact .unexplained cancelled
      | some reason => exact .panicked cancelled reason
  · intro h
    cases h <;> rfl

theorem outcome_eq_ok_iff :
    ending.outcome kind cancelled = .ok () ↔ (ending, cancelled) = (.returned, true) := by
  cases ending <;> cases cancelled <;> simp [outcome]

end Ending

/-! ## Incidents -/

/-- Something that has happened to workers. -/
inductive Incident
  /-- The work of a worker has ended; `cancelled` says whether the worker had been told to stop. -/
  | ended (position : Nat) (ending : Ending) (cancelled : Bool)
  /-- The supervision has seen the end of a worker. -/
  | seen (position : Nat)
  /-- A shutdown of the program was requested. -/
  | requested
  /-- Somebody else has told the workers to stop. -/
  | stopped
deriving DecidableEq

namespace Incident

/-- How the work of the worker at `position` has ended, if that is what has happened. -/
def endAt? (position : Nat) : Incident → Option (Ending × Bool)
  | .ended other ending cancelled => if other = position then some (ending, cancelled) else none
  | _ => none

/-- The worker whose end was seen, if that is what has happened. -/
def seen? : Incident → Option Nat
  | .seen position => some position
  | _ => none

/-- How the work of the worker at `position` has ended, and whether it had been told to stop. -/
def endOf (h : List Incident) (position : Nat) : Option (Ending × Bool) :=
  h.findSome? (endAt? position)

/-- The workers whose ends have been seen, in the order in which they were. -/
def seenIn (h : List Incident) : List Nat := h.filterMap seen?

/-- The worker at `position` has returned after it had been told to stop. -/
def Clean (h : List Incident) (position : Nat) : Prop := endOf h position = some (.returned, true)

/-- The workers have been told to stop: from the beginning, by a shutdown of the program, by
somebody else, or because the end of one of them was seen that was not clean. -/
def Told (program : Bool) (h : List Incident) : Prop :=
  (program = true ∨ .requested ∈ h) ∨ .stopped ∈ h ∨ ∃ i ∈ seenIn h, ¬Clean h i

/-- What is to be told when the worker at `position` does something. -/
def ofEvent (tasks : List Task) (cancelled : Bool) (position : Nat) : Task.Event → Option Incident
  | .finish ending =>
    if tasks[position]?.any (!·.hasEnded) then some (.ended position ending cancelled) else none
  | _ => none

variable {h l : List Incident} {position : Nat} {x : Incident} {program cancelled : Bool}

theorem endOf_append (h l : List Incident) (position : Nat) :
    endOf (h ++ l) position = (endOf h position).or (endOf l position) := List.findSome?_append

/-- How a worker has ended does not change. -/
theorem endOf_append_of_isSome (hended : (endOf h position).isSome) (l : List Incident) :
    endOf (h ++ l) position = endOf h position := by
  rw [endOf_append, Option.or_of_isSome hended]

theorem seenIn_append (h l : List Incident) : seenIn (h ++ l) = seenIn h ++ seenIn l :=
  List.filterMap_append

theorem clean_append_iff (hended : (endOf h position).isSome) (l : List Incident) :
    Clean (h ++ l) position ↔ Clean h position := by
  rw [Clean, Clean, endOf_append_of_isSome hended]

/-- The record of an event is about the worker that the event is about. -/
theorem eq_of_mem_ofEvent {tasks : List Task} {e : Task.Event}
    (hx : x ∈ (ofEvent tasks cancelled position e).toList) :
    ∃ ending, x = .ended position ending cancelled := by
  cases e with
  | finish ending =>
    rw [ofEvent] at hx
    split at hx
    · exact ⟨ending, List.mem_singleton.1 hx⟩
    · cases hx
  | signal => cases hx
  | dropSignal => cases hx

theorem mem_append_ofEvent_iff {tasks : List Task} {e : Task.Event}
    (hx : ∀ ending, x ≠ .ended position ending cancelled) :
    x ∈ h ++ (ofEvent tasks cancelled position e).toList ↔ x ∈ h := by
  rw [List.mem_append, or_iff_left]
  intro hmem
  obtain ⟨ending, rfl⟩ := eq_of_mem_ofEvent hmem
  exact hx ending rfl

theorem endOf_ofEvent_ne {tasks : List Task} {e : Task.Event} {other : Nat}
    (hother : position ≠ other) :
    endOf (ofEvent tasks cancelled position e).toList other = none := by
  refine List.findSome?_eq_none_iff.2 fun x hx => ?_
  obtain ⟨ending, rfl⟩ := eq_of_mem_ofEvent hx
  exact if_neg hother

theorem seenIn_ofEvent {tasks : List Task} {e : Task.Event} :
    seenIn (ofEvent tasks cancelled position e).toList = [] := by
  refine List.filterMap_eq_nil_iff.2 fun x hx => ?_
  obtain ⟨ending, rfl⟩ := eq_of_mem_ofEvent hx
  rfl

/-! ## What tasks show -/

/-- The tasks show how their work has ended. -/
def Shown (tasks : List Task) (h : List Incident) : Prop :=
  ∀ ⦃position : Nat⦄ ⦃t : Task⦄, tasks[position]? = some t →
    t.outcome = (endOf h position).map fun (ending, cancelled) => ending.outcome t.kind cancelled

theorem Shown.hasEnded {tasks : List Task} (hs : Shown tasks h) {t : Task}
    (ht : tasks[position]? = some t) : t.hasEnded = (endOf h position).isSome := by
  rw [Task.hasEnded, hs ht, Option.isSome_map]

/-- What happens besides is no end of a worker. -/
theorem Shown.append {tasks : List Task} (hs : Shown tasks h)
    (hl : ∀ position, endOf l position = none) : Shown tasks (h ++ l) := by
  intro position t ht
  rw [endOf_append, hl position, Option.or_none]
  exact hs ht

/-- The worker at `position` does something, and it is told. -/
theorem Shown.act {tasks : List Task} (hs : Shown tasks h) (cancelled : Bool) (position : Nat)
    (e : Task.Event) :
    Shown (tasks.modify position (·.step cancelled e))
      (h ++ (ofEvent tasks cancelled position e).toList) := by
  intro other u hu
  rw [List.getElem?_modify, Option.map_eq_map, Option.map_eq_some_iff] at hu
  obtain ⟨t, ht, rfl⟩ := hu
  rw [endOf_append]
  by_cases hother : position = other
  · subst hother
    simp only [if_true, Task.kind_step]
    -- An end is told once, since an ended task does nothing more.
    by_cases hended : t.hasEnded = true
    · rw [Task.step_of_hasEnded hended, Option.or_of_isSome (hs.hasEnded ht ▸ hended)]
      exact hs ht
    · have hopen : ¬t.outcome.isSome = true := hended
      have hnone : endOf h position = none := by
        rw [hs.hasEnded ht, Option.not_isSome_iff_eq_none] at hended
        exact hended
      have hshows : t.outcome = none := Option.not_isSome_iff_eq_none.1 hopen
      rw [hnone, Option.none_or]
      have hresolve : ∀ signal, (t.resolve signal).outcome = none := by
        intro signal
        unfold Task.resolve
        split <;> exact hshows
      cases e with
      | signal => rw [Task.step, if_neg hopen, hresolve]; rfl
      | dropSignal => rw [Task.step, if_neg hopen, hresolve]; rfl
      | finish ending =>
        have hany : tasks[position]?.any (!·.hasEnded) = true := by
          simp [ht, hended]
        simp [Task.step, if_neg hopen, ofEvent, hany, endOf, endAt?]
  · simp only [if_neg hother]
    rw [endOf_ofEvent_ne hother, Option.or_none]
    exact hs ht

/-! ## Who has been told to stop -/

/-- Every end is told with whether the worker had been told to stop when it came. -/
def Informed (program : Bool) (h : List Incident) : Prop :=
  ∀ ⦃before : List Incident⦄ ⦃position : Nat⦄ ⦃ending : Ending⦄ ⦃cancelled : Bool⦄
    ⦃after : List Incident⦄,
    h = before ++ .ended position ending cancelled :: after →
      (cancelled = true ↔ Told program before)

theorem informed_nil : Informed program [] := by
  intro before position ending cancelled after h
  cases before <;> cases h

theorem Informed.append {o : Option Incident} (hinformed : Informed program h)
    (hlast : ∀ {position ending cancelled}, o = some (.ended position ending cancelled) →
      (cancelled = true ↔ Told program h)) : Informed program (h ++ o.toList) := by
  intro before position ending cancelled after heq
  cases o with
  | none =>
    rw [Option.toList_none, List.append_nil] at heq
    exact hinformed heq
  | some x =>
    -- The end is the last incident, or it is among those before.
    rcases List.eq_nil_or_concat after with rfl | ⟨init, y, rfl⟩
    · obtain ⟨rfl, hx⟩ := List.append_inj' heq rfl
      exact hlast (congrArg some (List.head_eq_of_cons_eq hx))
    · rw [List.concat_eq_append, ← List.cons_append, ← List.append_assoc] at heq
      exact hinformed (List.append_inj' heq rfl).1

theorem Informed.append_event {tasks : List Task} {e : Task.Event}
    (hinformed : Informed program h) (htold : cancelled = true ↔ Told program h) :
    Informed program (h ++ (ofEvent tasks cancelled position e).toList) := by
  refine hinformed.append fun {other ending flag} ho => ?_
  obtain ⟨_, hsame⟩ := eq_of_mem_ofEvent (Option.mem_toList.2 ho)
  cases hsame
  exact htold

end Incident

theorem map_modify {α β : Type} (view : α → β) {change : α → α} {shown : β → β}
    (h : ∀ x, view (change x) = shown (view x)) (l : List α) (position : Nat) :
    (l.modify position change).map view = (l.map view).modify position shown := by
  refine List.ext_getElem? fun i => ?_
  simp only [List.getElem?_map, List.getElem?_modify]
  cases l[i]? with
  | none => rfl
  | some x =>
    by_cases hi : position = i
    · simp [hi, h]
    · simp [hi]

/-- What can be seen of the workers when one of them does something. -/
theorem map_task_modify (members : List Member) (position : Nat) (cancelled : Bool)
    (e : Task.Event) :
    (members.modify position (.act cancelled e)).map (·.task) =
      (members.map (·.task)).modify position (·.step cancelled e) :=
  map_modify Member.task (fun _ => rfl) members position

theorem map_kind_modify (tasks : List Task) (position : Nat) (cancelled : Bool) (e : Task.Event) :
    (tasks.modify position (·.step cancelled e)).map (·.kind) = tasks.map (·.kind) :=
  (map_modify Task.kind (fun _ => Task.kind_step) tasks position).trans (List.modify_id ..)

/-! ## Bootstraps -/

namespace Bootstrap

open Incident

variable {b₀ b c : Bootstrap} {h : List Incident} {program : Bool}

/-- The tasks of the workers. -/
def tasks (b : Bootstrap) : List Task := b.members.map (·.task)

theorem tasks_act (b : Bootstrap) (position : Nat) (e : Task.Event) :
    (b.act position e).tasks = b.tasks.modify position (·.step b.tokens.cancelled e) := by
  rw [tasks, members_act, tasks, map_task_modify]

/-- What may come of a bootstrap, with its incidents. -/
inductive Unfolds (b₀ : Bootstrap) : List Incident → Bootstrap → Prop
  | refl : Unfolds b₀ [] b₀
  | next (requestFirst : Bool) {h : List Incident} {b : Bootstrap} :
    Unfolds b₀ h b → Unfolds b₀ h (b.next requestFirst)
  | act (position : Nat) (e : Task.Event) {h : List Incident} {b : Bootstrap} :
    Unfolds b₀ h b →
      Unfolds b₀ (h ++ (ofEvent b.tasks b.tokens.cancelled position e).toList) (b.act position e)
  | request {h : List Incident} {b : Bootstrap} :
    Unfolds b₀ h b → Unfolds b₀ (h ++ [.requested]) { b with tokens.program := true }
  | wait (d : Nat) {h : List Incident} {b : Bootstrap} :
    Unfolds b₀ h b → Unfolds b₀ h { b with now := b.now + d }

/-- Whatever can be reached has its incidents. -/
theorem exists_unfolds (hr : b₀.Reaches b) : ∃ h, b₀.Unfolds h b := by
  induction hr with
  | refl => exact ⟨[], .refl⟩
  | tail _ hs ih =>
    obtain ⟨h, ih⟩ := ih
    cases hs with
    | next requestFirst => exact ⟨_, ih.next requestFirst⟩
    | act position e => exact ⟨_, ih.act position e⟩
    | request => exact ⟨_, ih.request⟩
    | wait d => exact ⟨_, ih.wait d⟩

theorem Unfolds.reaches (hu : b₀.Unfolds h b) : b₀.Reaches b := by
  induction hu with
  | refl => exact .refl
  | next requestFirst _ ih => exact ih.tail (.next requestFirst _)
  | act position e _ ih => exact ih.tail (.act position e _)
  | request _ ih => exact ih.tail (.request _)
  | wait d _ ih => exact ih.tail (.wait d _)

theorem program_looked {position : Nat} {m : Member}
    (look : Look ReadyWait (Except WorkerError Unit) × Handle) :
    (b.looked position m look).tokens.program = b.tokens.program := by
  obtain ⟨answer, handle⟩ := look
  cases answer with
  | waiting wait => rfl
  | done answer => cases answer <;> rfl

theorem tokens_looked {position : Nat} {m : Member}
    {look : Look ReadyWait (Except WorkerError Unit) × Handle}
    (hopen : (b.looked position m look).phase.error? = none) :
    (b.looked position m look).tokens = b.tokens := by
  obtain ⟨answer, handle⟩ := look
  cases answer with
  | waiting wait => rfl
  | done answer =>
    cases answer with
    | ok u => rfl
    | error e => cases hopen

/-- A bootstrap tells its workers to stop only when it fails, and does not come back from that. -/
theorem unfailed_before_next {requestFirst : Bool}
    (hopen : (b.next requestFirst).phase.error? = none) :
    b.phase.error? = none ∧ (b.next requestFirst).tokens = b.tokens := by
  cases hphase : b.phase with
  | awaiting position wait =>
    refine ⟨rfl, ?_⟩
    cases hm : b.members[position]? with
    | none => simp only [next, hphase, hm]
    | some m =>
      rcases next_of_awaiting requestFirst hphase hm with ⟨-, hnext⟩ | hnext | ⟨-, -, hnext⟩
      · rw [hnext] at hopen
        cases hopen
      · rw [hnext] at hopen ⊢
        exact tokens_looked hopen
      · rw [hnext] at hopen
        cases hopen
  | draining position error =>
    cases hm : b.members[position]? with
    | none => simp [next, hphase, hm, Phase.error?] at hopen
    | some m =>
      simp only [next, hphase, hm] at hopen
      split at hopen
      · cases hopen
      · rw [hphase] at hopen
        cases hopen
  | failed error =>
    simp only [next, hphase] at hopen
    cases hopen
  | ready =>
    simp only [next, hphase]
    exact ⟨rfl, trivial⟩

theorem program_next (requestFirst : Bool) :
    (b.next requestFirst).tokens.program = b.tokens.program := by
  cases hphase : b.phase with
  | awaiting position wait =>
    cases hm : b.members[position]? with
    | none => simp only [next, hphase, hm]
    | some m =>
      have hlooked : ∀ look, (b.looked position m look).tokens.program = b.tokens.program :=
        program_looked
      rcases next_of_awaiting requestFirst hphase hm with ⟨-, hnext⟩ | hnext | ⟨-, -, hnext⟩
      · rw [hnext]
        rfl
      · rw [hnext]
        exact hlooked _
      · rw [hnext]
        exact hlooked _
  | draining position error =>
    cases hm : b.members[position]? with
    | none => simp only [next, hphase, hm]
    | some m =>
      simp only [next, hphase, hm]
      split <;> rfl
  | failed error => simp only [next, hphase]
  | ready => simp only [next, hphase]

/-- How a bootstrap stands to its incidents; `initially` says whether the shutdown of the program
was requested before it. -/
structure Accords (initially : Bool) (h : List Incident) (b : Bootstrap) : Prop where
  shown : Shown b.tasks h
  unseen : seenIn h = []
  unstopped : .stopped ∉ h
  program : b.tokens.program = true ↔ initially = true ∨ .requested ∈ h
  /-- Until it fails, only a shutdown of the program tells workers to stop. -/
  unfailed : b.phase.error? = none → b.tokens.set = false ∧ Informed initially h

variable {initially : Bool}

/-- A bootstrap that has not failed has told its workers to stop if it was told so itself. -/
theorem Accords.cancelled_iff (ha : b.Accords initially h) (hopen : b.phase.error? = none) :
    b.tokens.cancelled = true ↔ Told initially h := by
  have hset := (ha.unfailed hopen).1
  simp [Tokens.cancelled, Told, hset, ha.program, ha.unseen, ha.unstopped]

theorem accords_start (now : Instant) (initially : Bool) (limit : Duration)
    (given : List PendingWorker) : (start now initially limit given).Accords initially [] where
  shown position t ht := by
    rw [tasks, start, List.map_map, List.getElem?_map, Option.map_eq_some_iff] at ht
    obtain ⟨kind, -, rfl⟩ := ht
    rfl
  unseen := rfl
  unstopped := List.not_mem_nil
  program := by simp [start]
  unfailed _ := ⟨rfl, informed_nil⟩

theorem Accords.next (ha : b.Accords initially h) (requestFirst : Bool) :
    (b.next requestFirst).Accords initially h where
  shown := by
    rw [tasks, tasks_next]
    exact ha.shown
  unseen := ha.unseen
  unstopped := ha.unstopped
  program := by
    rw [program_next]
    exact ha.program
  unfailed hopen := by
    obtain ⟨hbefore, htokens⟩ := unfailed_before_next hopen
    rw [htokens]
    exact ha.unfailed hbefore

theorem Accords.act (ha : b.Accords initially h) (position : Nat) (e : Task.Event) :
    (b.act position e).Accords initially
      (h ++ (ofEvent b.tasks b.tokens.cancelled position e).toList) := by
  have hphase : (b.act position e).phase = b.phase := by
    unfold Bootstrap.act
    split <;> rfl
  have htokens : (b.act position e).tokens = b.tokens := by
    unfold Bootstrap.act
    split <;> rfl
  constructor
  · rw [tasks_act]
    exact ha.shown.act _ position e
  · rw [seenIn_append, ha.unseen, seenIn_ofEvent]
    rfl
  · rw [mem_append_ofEvent_iff (x := .stopped) nofun]
    exact ha.unstopped
  · rw [mem_append_ofEvent_iff (x := .requested) nofun, htokens]
    exact ha.program
  · intro hopen
    rw [hphase] at hopen
    obtain ⟨hset, hinformed⟩ := ha.unfailed hopen
    rw [htokens]
    exact ⟨hset, hinformed.append_event (ha.cancelled_iff hopen)⟩

theorem Accords.request (ha : b.Accords initially h) :
    Accords initially (h ++ [.requested]) { b with tokens.program := true } where
  shown := ha.shown.append fun _ => rfl
  unseen := by
    rw [seenIn_append, ha.unseen]
    rfl
  unstopped hx := by
    rcases List.mem_append.1 hx with hx | hx
    · exact ha.unstopped hx
    · cases List.mem_singleton.1 hx
  program := by simp
  unfailed hopen := by
    obtain ⟨hset, hinformed⟩ := ha.unfailed hopen
    exact ⟨hset, hinformed.append (o := some .requested) nofun⟩

/-- The workers of a bootstrap show what its incidents tell. -/
theorem Unfolds.accords {now : Instant} {limit : Duration} {given : List PendingWorker}
    (hu : (start now initially limit given).Unfolds h b) : b.Accords initially h := by
  induction hu with
  | refl => exact accords_start now initially limit given
  | next requestFirst _ ih => exact ih.next requestFirst
  | act position e _ ih => exact ih.act position e
  | request _ ih => exact ih.request
  | wait d _ ih => exact ⟨ih.shown, ih.unseen, ih.unstopped, ih.program, ih.unfailed⟩

end Bootstrap

end ControlPlane
