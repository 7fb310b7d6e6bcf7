import ControlPlane.Bootstrap.Sequence

/-!
# Supervising ready workers

When all workers are ready, their ends are waited for. The first failure that is seen stops all of
them, and it is reported when the last one has ended.

## Main definitions

- `Supervision`: the workers, and whose ends have been seen.
- `Supervision.observe`: the end of one worker is seen.
- `Supervision.outcome?`: what the supervision reports, once all ends have been seen.
- `Supervision.Step`: what the supervision and its surroundings may do.
-/

namespace ControlPlane

/-- Ready workers under supervision. -/
structure Supervision where
  tokens : Tokens
  members : List Member
  /-- The positions of the workers whose ends have not been seen. -/
  unseen : List Nat
  /-- The first failure that was seen. -/
  failure : Option WorkerError
deriving DecidableEq

namespace Supervision

/-- The supervision of workers that are ready. -/
def ofMembers (tokens : Tokens) (members : List Member) : Supervision :=
  ⟨tokens, members, List.range members.length, none⟩

/-- What the end of a worker means for the supervision. -/
def record (s : Supervision) (position : Nat) : Except WorkerError Unit → Supervision
  | .ok () => { s with unseen := s.unseen.erase position }
  | .error e =>
    { s with
      unseen := s.unseen.erase position
      tokens.set := true
      failure := some (s.failure.getD e) }

/-- The end of the worker at `position` is seen, if it has ended and that was not seen before. -/
def observe (s : Supervision) (position : Nat) : Supervision :=
  if position ∈ s.unseen then
    match s.members[position]? with
    | none => s
    | some m =>
      match m.handle.lookEnd m.task with
      | none => s
      | some outcome => s.record position outcome
  else s

/-- What the supervision reports, once all ends have been seen. -/
def outcome? (s : Supervision) : Option (Except WorkerError Unit) :=
  if s.unseen.isEmpty then
    some (match s.failure with
      | none => .ok ()
      | some e => .error e)
  else none

/-- The worker at `position` does something. -/
def act (s : Supervision) (position : Nat) (e : Task.Event) : Supervision :=
  match s.members[position]? with
  | none => s
  | some m =>
    { s with
      members := s.members.set position { m with task := m.task.step s.tokens.cancelled e } }

/-- What the supervision and its surroundings may do. -/
inductive Step : Supervision → Supervision → Prop
  | observe (position : Nat) (s : Supervision) : Step s (s.observe position)
  | act (position : Nat) (e : Task.Event) (s : Supervision) : Step s (s.act position e)
  /-- A shutdown of the program is requested. -/
  | request (s : Supervision) : Step s { s with tokens.program := true }
  /-- Somebody else stops the workers. -/
  | stop (s : Supervision) : Step s { s with tokens.set := true }

/-- What may come of a supervision. -/
inductive Reaches (s : Supervision) : Supervision → Prop
  | refl : Reaches s s
  | tail {t u : Supervision} : Reaches s t → Step t u → Reaches s u

end Supervision

end ControlPlane
