import ControlPlane.Bootstrap.Basic
import ControlPlane.Pipeline.Basic

/-!
# Errors of the orchestration

## Main definitions

- `OrchestrationError`: why the control plane stopped, or a refinement was not applied.
- `OrchestrationError.stage`: the part of the work in which that happened.
-/

namespace ControlPlane

/-- Why the control plane stopped, or a refinement was not applied. -/
inductive OrchestrationError
  | pipeline (source : PipelineError)
  | distributor (source : DistributorError)
  | feedback (source : FeedbackError)
  | bootstrap (source : BootstrapError)
  | worker (source : WorkerError)
deriving DecidableEq

namespace OrchestrationError

/-- The text of an error. -/
def message : OrchestrationError → String
  | .pipeline source => "query pipeline failed: " ++ source.message
  | .distributor source => "configuration delivery failed: " ++ source.message
  | .feedback source => "output listener failed: " ++ source.message
  | .bootstrap source => "bootstrap failed: " ++ source.message
  | .worker source => "worker failed: " ++ source.message

/-- The part of the work that a failure belongs to. An event that could not be forwarded counts as
distribution, wherever that came to light. -/
def stage : OrchestrationError → String
  | .pipeline source => source.stage.name
  | .distributor _ => "distribute"
  | .feedback (.bind ..) => "bootstrap"
  | .feedback (.forward _) => "distribute"
  | .bootstrap _ => "bootstrap"
  | .worker (.feedback (.forward _)) => "distribute"
  | .worker _ => "worker"

end OrchestrationError

end ControlPlane
