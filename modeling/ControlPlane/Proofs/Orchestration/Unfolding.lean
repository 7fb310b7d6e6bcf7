import ControlPlane.Proofs.Orchestration.Moves
import ControlPlane.Proofs.Orchestration.Turns

/-!
# What may come of a control plane

## Main definitions

- `Orchestration.Unfolds`: what may come of a new control plane, with its history.
- `Orchestration.chronicle`: the history of moves in order.

## Main statements

- `Orchestration.Unfolds.of_reaches`: whatever can be reached has a history.
- `Orchestration.Unfolds.kept`: what holds after any moves.
-/

namespace ControlPlane

namespace Orchestration

/-- What may come of a new control plane that is run once, with its history. The collaborators may
answer differently at each move, as long as they compile under the ids that they are handed. -/
inductive Unfolds (plan : Plan) : List Deed → Orchestration → Prop
  | fresh : Unfolds plan [] {}
  | begin {h : List Deed} {o q : Orchestration} (queries : List LogicalQuery)
      (workers : List PendingWorker) (first : o.run = none) :
      Unfolds plan h o → o.begin queries workers = some q → Unfolds plan h q
  | move {h : List Deed} {o q : Orchestration} {c : Collaborators} (tags : c.Tags) (m : Move) :
      Unfolds plan h o → o.next c plan m = some q → Unfolds plan (h ++ o.deeds c plan m) q

/-- The history of moves in order. -/
def chronicle (c : Collaborators) (plan : Plan) (o : Orchestration) : List Move → List Deed
  | [] => []
  | m :: rest =>
    o.deeds c plan m ++ (o.next c plan m).elim [] fun q => q.chronicle c plan rest

namespace Unfolds

variable {plan : Plan} {c : Collaborators} {h : List Deed} {o q : Orchestration}

/-- Whatever can be reached has a history. -/
theorem of_reaches (hu : Unfolds plan h o) (tags : c.Tags) (hr : Reaches c plan o q) :
    ∃ later, Unfolds plan (h ++ later) q := by
  induction hr with
  | refl => exact ⟨[], by rwa [List.append_nil]⟩
  | @tail p q m _ hnext ih =>
    obtain ⟨later, hp⟩ := ih
    refine ⟨later ++ p.deeds c plan m, ?_⟩
    rw [← List.append_assoc]
    exact hp.move tags m hnext

/-- Moves in order have the history that their deeds make. -/
theorem of_replay (hu : Unfolds plan h o) (tags : c.Tags) {moves : List Move}
    (hr : o.replay c plan moves = some q) : Unfolds plan (h ++ o.chronicle c plan moves) q := by
  induction moves generalizing h o with
  | nil =>
    cases hr
    rwa [chronicle, List.append_nil]
  | cons m rest ih =>
    obtain ⟨p, hnext, hrest⟩ := Option.bind_eq_some_iff.1 hr
    have hp := ih (hu.move tags m hnext) hrest
    rw [List.append_assoc] at hp
    rw [chronicle, hnext]
    exact hp

/-- What holds after any moves. -/
theorem kept (hu : Unfolds plan h o) : o.floor.Kept h := by
  induction hu with
  | fresh => exact Floor.Kept.fresh_floor
  | begin queries workers first _ hbegin ih =>
    rw [floor_begin first hbegin]
    exact ih
  | move tags m _ hnext ih => exact ih.step tags (step_of_next hnext)

end Unfolds

/-- A plan with two attempts for every message. -/
def twoAttempts : Plan where
  fabricEndpoint := "fm"
  streamingEndpoint := "sm"
  outputAddress := "out"
  candidates := 4
  connectTimeout := .ofMillis 1
  retry := .atLeastOnce 2 (.ofMillis 1) (.ofMillis 2)
  sendLimit := 1024
  readinessTimeout := .ofSecs 1
  readTimeout := .ofMillis 1
  receiveLimit := 1024

/-- An attempt that meets nobody at the endpoint of the fabric manager. -/
def nobodyThere : Except ChannelError Unit := .error (.unavailable "fm" (.os 111))

/-- A query with one variant. -/
def scan : LogicalQuery := ⟨"scan", ["map(sIP)"], []⟩

/-- A query with two variants. -/
def ddos : LogicalQuery := ⟨"ddos", ["map(dIP)"], [8, 16]⟩

/-- The moves of a run without workers up to its first attempt to deliver a message. -/
def comingUp : List Move :=
  [.advance true, .advance true, .bind (.ok ()), .announce, .advance true, .advance true,
    .advance true]

end Orchestration

end ControlPlane
