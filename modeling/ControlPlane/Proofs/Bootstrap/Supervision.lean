import ControlPlane.Bootstrap.Supervision
import ControlPlane.Proofs.Bootstrap.Failure
import Mathlib.Data.List.Basic

/-!
# What a supervision knows of its workers

The workers that a bootstrap hands over are ready, and the end of each can be waited for. The
supervision reports when it has seen all ends, so that no worker outlives its report.

## Main definitions

- `Member.act`: what a worker does.
- `Supervision.Sound`: what always holds of a supervision.

## Main statements

- `Supervision.Sound.step`: what every step preserves.
- `Supervision.Sound.ended`: all workers have ended when the supervision reports.
-/

namespace ControlPlane

/-- The worker does something; `cancelled` says whether it has been told to stop. -/
def Member.act (cancelled : Bool) (e : Task.Event) (m : Member) : Member :=
  { m with task := m.task.step cancelled e }

theorem Bootstrap.members_act (b : Bootstrap) (position : Nat) (e : Task.Event) :
    (b.act position e).members = b.members.modify position (.act b.tokens.cancelled e) := by
  rw [List.modify_eq_set_getElem?]
  unfold Bootstrap.act
  split
  · next hm => rw [hm]; rfl
  · next m hm => rw [hm]; rfl

namespace Supervision

variable {s t : Supervision}

theorem members_act (s : Supervision) (position : Nat) (e : Task.Event) :
    (s.act position e).members = s.members.modify position (.act s.tokens.cancelled e) := by
  rw [List.modify_eq_set_getElem?]
  unfold act
  split
  · next hm => rw [hm]; rfl
  · next m hm => rw [hm]; rfl

theorem unseen_act (s : Supervision) (position : Nat) (e : Task.Event) :
    (s.act position e).unseen = s.unseen := by
  unfold act
  split <;> rfl

theorem members_observe (s : Supervision) (position : Nat) :
    (s.observe position).members = s.members := by
  unfold observe
  split
  · split
    · rfl
    · split
      · rfl
      · next outcome _ => cases outcome <;> rfl
  · rfl

/-- What always holds of a supervision and its workers. -/
structure Sound (s : Supervision) : Prop where
  /-- The end of every worker can be waited for. -/
  held : ∀ {position : Nat} {m : Member}, s.members[position]? = some m →
    m.handle = { listening := false }
  /-- If the end of a worker has been seen, the worker has ended. -/
  seen : ∀ {position : Nat} {m : Member}, s.members[position]? = some m →
    position ∈ s.unseen ∨ m.task.hasEnded = true

theorem sound_ofMembers (tokens : Tokens) {b : Bootstrap} (h : b.Sound)
    (hready : b.phase = .ready) : (ofMembers tokens b.members).Sound where
  held hm := by
    have hfits : Member.Ready _ := h.fits_phase hready hm
    exact hfits.1
  seen hm := .inl (List.mem_range.2 (List.getElem?_eq_some_iff.1 hm).1)

theorem Sound.observe (h : s.Sound) (position : Nat) : (s.observe position).Sound := by
  unfold Supervision.observe
  split
  · split
    · exact h
    · next m hm =>
      split
      · exact h
      · next outcome hlook =>
        have hended : m.task.hasEnded = true := by
          have houtcome : m.task.outcome = some outcome := by
            simpa [Handle.lookEnd, h.held hm] using hlook
          rw [Task.hasEnded, houtcome]
          rfl
        -- Only this worker's end counts as seen now, and it has ended.
        have hseen : ∀ {other : Nat} {n : Member}, s.members[other]? = some n →
            other ∈ s.unseen.erase position ∨ n.task.hasEnded = true := by
          intro other n hn
          by_cases hother : other = position
          · subst hother
            obtain rfl := Option.some.inj (hm.symm.trans hn)
            exact .inr hended
          · exact (h.seen hn).imp_left (List.mem_erase_of_ne hother).2
        cases outcome with
        | ok u => exact ⟨h.held, hseen⟩
        | error e => exact ⟨h.held, hseen⟩
  · exact h

theorem Sound.act (h : s.Sound) (position : Nat) (e : Task.Event) : (s.act position e).Sound := by
  -- A worker does not touch its handle, and does not come back once it has ended.
  have hbefore : ∀ {other : Nat} {m : Member}, (s.act position e).members[other]? = some m →
      ∃ n, s.members[other]? = some n ∧ m.handle = n.handle ∧
        (n.task.hasEnded = true → m.task.hasEnded = true) := by
    intro other m hm
    rw [members_act, List.getElem?_modify, Option.map_eq_map, Option.map_eq_some_iff] at hm
    obtain ⟨n, hn, rfl⟩ := hm
    refine ⟨n, hn, ?_, fun hended => ?_⟩
    · split <;> rfl
    · split
      · rw [Member.act, Task.step_of_hasEnded hended]
        exact hended
      · exact hended
  constructor
  · intro other m hm
    obtain ⟨n, hn, hhandle, -⟩ := hbefore hm
    exact hhandle.trans (h.held hn)
  · intro other m hm
    obtain ⟨n, hn, -, hended⟩ := hbefore hm
    rw [unseen_act]
    exact (h.seen hn).imp_right hended

/-- What every step preserves. -/
theorem Sound.step (h : s.Sound) (hs : Step s t) : t.Sound := by
  cases hs with
  | observe position => exact h.observe position
  | act position e => exact h.act position e
  | request => exact ⟨h.held, h.seen⟩
  | stop => exact ⟨h.held, h.seen⟩

/-- When the supervision reports, all workers have ended. -/
theorem Sound.ended (h : s.Sound) {outcome : Except WorkerError Unit}
    (hreport : s.outcome? = some outcome) {position : Nat} {m : Member}
    (hm : s.members[position]? = some m) : m.task.hasEnded = true := by
  have hnone : s.unseen = [] := by
    by_contra hsome
    have hempty : s.unseen.isEmpty = false := by simpa using hsome
    rw [outcome?, hempty] at hreport
    cases hreport
  rcases h.seen hm with hunseen | hended
  · rw [hnone] at hunseen
    cases hunseen
  · exact hended

end Supervision

end ControlPlane
