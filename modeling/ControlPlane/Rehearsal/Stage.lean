import ControlPlane.Rehearsal.Actor

/-!
# Running a rehearsal

Somebody waits for something while the actors have their turns. When nobody can go on, the clock
jumps to the next planned instant. If there is none, the wait never ends; then the clock jumps to
the end of the rehearsal's patience. At that instant whoever waits looks once more, before anybody
else has a turn.

## Main definitions

- `Stage`: what a rehearsal consists of.
- `Stage.runUntil`, `Stage.run`: waiting for an answer.
-/

namespace ControlPlane.Rehearsal

/-- How a rehearsal with states `σ` goes on until there is an answer. -/
structure Stage (σ ρ : Type) where
  /-- Whoever waits looks whether there is an answer. -/
  look : σ → Option ρ × σ
  /-- The others have their turns; `true` says that somebody did something. -/
  turn : σ → Bool × σ
  /-- The instants for which something is planned. -/
  alarms : σ → List Instant
  now : σ → Instant
  /-- The clock jumps to an instant. -/
  jump : Instant → σ → σ

/-- How long somebody waits before it counts as for ever, in nanoseconds. -/
def patience : Nat := 10000000000 * 1000000

namespace Stage

variable {σ ρ : Type} (stage : Stage σ ρ)

/-- At most `rounds` rounds of a rehearsal that ends at `close`. -/
def rounds (close : Instant) : Nat → σ → Option ρ × σ
  | 0, s => (none, stage.jump close s)
  | n + 1, s =>
    match stage.look s with
    | (some answer, s) => (some answer, s)
    | (none, s) =>
      match stage.turn s with
      | (true, s) => rounds close n s
      | (false, s) =>
        match earliest ((stage.alarms s).filter (stage.now s < ·)) with
        | none => (none, stage.jump close s)
        | some t =>
          if close ≤ t then stage.look (stage.jump close s) else rounds close n (stage.jump t s)

/-- Waits for an answer until the instant `close`, at which there is one last look. A round either
takes an actor further in its script or lets a planned instant come, so `size` rounds with some to
spare are enough, where `size` counts both. -/
def runUntil (close : Instant) (size : Nat) (s : σ) : Option ρ × σ :=
  stage.rounds close (4 * size + 16) s

/-- Waits for an answer, for as long as the patience lasts. -/
def run (size : Nat) (s : σ) : Option ρ × σ := stage.runUntil (stage.now s + patience) size s

end Stage

end ControlPlane.Rehearsal
