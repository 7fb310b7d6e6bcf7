import ControlPlane.Worker.Basic

/-!
# Errors of the bootstrap

## Main definitions

- `BootstrapError`: why the workers could not be brought up together.
- `BootstrapError.ofWorker`: the error for a worker that failed before it was ready.
-/

namespace ControlPlane

/-- Why the workers could not be brought up together. -/
inductive BootstrapError
  /-- A worker failed or stopped before it was ready. -/
  | startFailure (kind : WorkerKind) (source : WorkerError)
  /-- A worker was not ready when the time for all of them was over. -/
  | readinessTimeout (kind : WorkerKind) (limit : Duration)
  /-- A shutdown was requested. -/
  | cancelled
deriving DecidableEq

namespace BootstrapError

/-- The error for a worker that failed before it was ready. A timeout is told with the time that all
workers had together, not with what was left of it for this one. -/
def ofWorker (kind : WorkerKind) (limit : Duration) : WorkerError → BootstrapError
  | .readinessTimeout _ _ => .readinessTimeout kind limit
  | source => .startFailure kind source

/-- The worker that is to blame. -/
def worker : BootstrapError → Option WorkerKind
  | .startFailure kind _ => some kind
  | .readinessTimeout kind _ => some kind
  | .cancelled => none

/-- The text of an error. -/
def message : BootstrapError → String
  | .startFailure kind source => kind.name ++ " failed to start: " ++ source.message
  | .readinessTimeout kind limit => kind.name ++ " not ready within " ++ limit.text
  | .cancelled => "bootstrap cancelled"

end BootstrapError

end ControlPlane
