import ControlPlane.Proofs.Bootstrap.Members
import ControlPlane.Proofs.Bootstrap.Order

/-!
# What a failed bootstrap leaves behind

When a bootstrap reports that it has failed, all of its workers have been told to stop and have
ended, with one exception. A worker that gave its ready signal up and runs on is waited for by its
end; if the shutdown is requested meanwhile, that wait is broken off and takes the task with it, and
the bootstrap does not notice that the worker still runs.

## Main statements

- `Bootstrap.map_of_reaches`: a bootstrap keeps hold of the workers it was started with.
- `Bootstrap.workers_of_started`: these are the workers that were given, in start order.
- `Bootstrap.ended_of_failed`: what has become of them when it has failed.
- `Bootstrap.outlived_by_worker`: a worker that still runs then.
-/

namespace ControlPlane

namespace Bootstrap

variable {b c : Bootstrap}

/-- The workers, in the order in which they were started. -/
def workers (b : Bootstrap) : List PendingWorker := b.members.map (·.worker)

/-- The kinds of the workers' tasks, in the order in which they were started. -/
def kinds (b : Bootstrap) : List WorkerKind := b.members.map (·.task.kind)

/-! ## The workers of a bootstrap -/

section Maps

variable {α : Type} {f : Member → α}

/-- Another worker in the place of one changes nothing that is the same of both. -/
theorem map_set {position : Nat} {m n : Member} (hm : b.members[position]? = some m)
    (hf : f n = f m) : (b.members.set position n).map f = b.members.map f := by
  obtain ⟨hlt, hget⟩ := List.getElem?_eq_some_iff.mp hm
  have hlength : position < (b.members.map f).length := by
    rw [List.length_map]
    exact hlt
  have hsame : (b.members.map f)[position] = f n := by
    rw [hf, ← hget]
    exact List.getElem_map f
  rw [List.map_set, ← hsame]
  exact List.set_getElem_self hlength

variable (hhandle : ∀ (m : Member) (handle : Handle), f { m with handle } = f m)

include hhandle

/-- A look at a worker changes its handle alone. -/
theorem map_looked {position : Nat} {m : Member} (hm : b.members[position]? = some m)
    (look : Look ReadyWait (Except WorkerError Unit) × Handle) :
    (b.looked position m look).members.map f = b.members.map f := by
  rw [← map_set hm (hhandle m look.2)]
  obtain ⟨answer, handle⟩ := look
  cases answer with
  | waiting wait => rfl
  | done answer => cases answer <;> rfl

/-- The sequence itself changes the handles of the workers alone. -/
theorem map_next (requestFirst : Bool) :
    (b.next requestFirst).members.map f = b.members.map f := by
  cases hphase : b.phase with
  | awaiting position wait =>
    cases hm : b.members[position]? with
    | none => simp only [next, hphase, hm]
    | some m =>
      have hlooked := map_looked hhandle hm (m.look b.now (.ofNanos (b.deadline - b.now)) wait)
      rcases next_of_awaiting requestFirst hphase hm with ⟨-, hnext⟩ | hnext | ⟨-, -, hnext⟩
      · rw [hnext]
        rfl
      · rw [hnext]
        exact hlooked
      · rw [hnext]
        exact hlooked
  | draining position error =>
    cases hm : b.members[position]? with
    | none => simp only [next, hphase, hm]
    | some m =>
      simp only [next, hphase, hm]
      split <;> rfl
  | failed error => simp only [next, hphase]
  | ready => simp only [next, hphase]

variable (htask : ∀ (m : Member) (cancelled : Bool) (e : Task.Event),
  f { m with task := m.task.step cancelled e } = f m)

include htask

/-- What neither a look at a worker nor anything that the worker does changes stays as it is. -/
theorem map_step (h : Step b c) : c.members.map f = b.members.map f := by
  cases h with
  | next requestFirst => exact map_next hhandle requestFirst
  | act position e =>
    cases hm : b.members[position]? with
    | none => simp only [act, hm]
    | some m =>
      simp only [act, hm]
      exact map_set hm (htask m _ e)
  | request => rfl
  | wait d => rfl

theorem map_of_reaches (h : b.Reaches c) : c.members.map f = b.members.map f := by
  induction h with
  | refl => rfl
  | tail _ hs ih => exact (map_step hhandle htask hs).trans ih

end Maps

/-- The sequence itself does nothing that can be seen of the workers. -/
theorem tasks_next (requestFirst : Bool) :
    (b.next requestFirst).members.map (·.task) = b.members.map (·.task) :=
  map_next (fun _ _ => rfl) requestFirst

variable {now : Instant} {program : Bool} {limit : Duration} {given : List PendingWorker}

theorem workers_of_started (h : (start now program limit given).Reaches b) :
    b.workers = startOrder (·.kind) given := by
  have hkept : b.workers = (start now program limit given).workers :=
    map_of_reaches (fun _ _ => rfl) (fun _ _ _ => rfl) h
  rw [hkept, workers, start, List.map_map]
  exact List.map_id _

theorem kinds_of_started (h : (start now program limit given).Reaches b) :
    b.kinds = (startOrder (·.kind) given).map (·.kind) := by
  have hkept : b.kinds = (start now program limit given).kinds :=
    map_of_reaches (fun _ _ => rfl) (fun _ _ _ => Task.kind_step) h
  rw [hkept, kinds, start, List.map_map]
  rfl

/-- Every worker runs on a task of its own kind. -/
theorem kind_of_started (h : (start now program limit given).Reaches b) :
    ∀ m ∈ b.members, m.task.kind = m.worker.kind := by
  have hkinds : b.members.map (·.task.kind) = b.members.map (·.worker.kind) := by
    have hworkers := congrArg (List.map PendingWorker.kind) (workers_of_started h)
    rw [workers, List.map_map] at hworkers
    exact (kinds_of_started h).trans hworkers.symm
  exact List.map_inj_left.mp hkinds

/-! ## Failure -/

variable {error : BootstrapError}

/-- When a bootstrap has failed, its workers have been told to stop. They have all ended but for at
most one: the worker that the shutdown of the program found waited for by its end, after it had
given its signal up. -/
theorem ended_of_failed (h : (start now program limit given).Reaches b)
    (hfailed : b.phase = .failed error) :
    b.tokens.cancelled = true ∧ b.workers = startOrder (·.kind) given ∧
      b.kinds = b.workers.map (·.kind) ∧
      ∃ gone, ∀ {position : Nat} {m : Member}, b.members[position]? = some m →
        m.task.hasEnded = true ∨
          (position = gone ∧ error = .cancelled ∧ b.tokens.program = true ∧
            m.task.signal = .dropped ∧ m.Abandoned) := by
  have hsound := (sound_start now program limit given).reaches h
  have herror : b.phase.error? = some error := by
    rw [hfailed]
    rfl
  obtain ⟨hset, hprogram⟩ := hsound.told herror
  refine ⟨?_, workers_of_started h, ?_, ?_⟩
  · rw [Tokens.cancelled, hset, Bool.or_true]
  · rw [kinds_of_started h, workers_of_started h]
  · obtain ⟨gone, halone⟩ := hsound.alone
    refine ⟨gone, fun {position m} hm => ?_⟩
    have hfits : m.Stopping error True := hsound.fits_phase hfailed hm
    rcases hfits.ended trivial with hended | habandoned
    · exact .inl hended
    · obtain ⟨hcancelled, hdropped⟩ := hfits.abandoned habandoned
      exact .inr ⟨halone hm habandoned, hcancelled, hprogram hcancelled, hdropped, habandoned⟩

/-- A bootstrap of an emitter that is not ready within a second, and of a fabric manager that is. -/
theorem ended_after_timeout : ∃ b : Bootstrap,
    (start 0 false (.ofSecs 1) [⟨.emitter, "e"⟩, ⟨.fabricManager, "f"⟩]).Reaches b ∧
      b.phase = .failed (.readinessTimeout .emitter (.ofSecs 1)) ∧
      b.workers = [⟨.fabricManager, "f"⟩, ⟨.emitter, "e"⟩] ∧
      ∀ m ∈ b.members, m.task.hasEnded = true := by
  let b₀ := start 0 false (.ofSecs 1) [⟨.emitter, "e"⟩, ⟨.fabricManager, "f"⟩]
  have h₁ : b₀.Reaches ((b₀.act 0 .signal).next false) :=
    .tail (.tail .refl (.act 0 .signal _)) (.next false _)
  have h₂ := (h₁.tail (.next false _)).tail (.wait 1000000000 _)
  have h₃ := (h₂.tail (.next false _)).tail (.act 0 (.finish .returned) _)
  have h₄ := (h₃.tail (.next false _)).tail (.act 1 (.finish .returned) _)
  have h₅ := (h₄.tail (.next false _)).tail (.next false _)
  obtain ⟨b, h, hfailed⟩ : ∃ b, b₀.Reaches b ∧
      b.phase = .failed (.readinessTimeout .emitter (.ofSecs 1)) := ⟨_, h₅, by decide +kernel⟩
  obtain ⟨-, hworkers, -, _, hended⟩ := ended_of_failed h hfailed
  refine ⟨b, h, hfailed, hworkers, fun m hm => ?_⟩
  obtain ⟨position, hposition⟩ := List.mem_iff_getElem?.mp hm
  rcases hended hposition with h | ⟨-, h, -⟩
  · exact h
  · cases h

/-- An emitter that gives its ready signal up and runs on outlives the bootstrap if the shutdown is
requested while the bootstrap waits for its end. -/
theorem outlived_by_worker : ∃ b : Bootstrap,
    (start 0 false (.ofSecs 30) [⟨.emitter, "e"⟩]).Reaches b ∧ b.phase = .failed .cancelled ∧
      ∃ m ∈ b.members, m.task.hasEnded = false := by
  have h₁ : (start 0 false (.ofSecs 30) [⟨.emitter, "e"⟩]).Reaches _ :=
    .tail .refl (.act 0 .dropSignal _)
  have h₂ := (h₁.tail (.next false _)).tail (.request _)
  -- The bootstrap notices the request, finds nothing to wait for, and gives up.
  have h₃ := ((h₂.tail (.next false _)).tail (.next false _)).tail (.next false _)
  exact ⟨_, h₃, by decide +kernel, by decide +kernel⟩

end Bootstrap

end ControlPlane
