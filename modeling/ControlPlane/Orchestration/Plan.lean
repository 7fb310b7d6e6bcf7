import ControlPlane.Config.Settings
import ControlPlane.Worker.Process

/-!
# The plan of a control plane

## Main definitions

- `Plan`: everything that a control plane needs to run.
- `Plan.ofSettings`: the plan that settings describe.
- `Settings.workers`: the workers that settings describe.
-/

namespace ControlPlane

/-- Everything that a control plane needs to run. -/
structure Plan where
  fabricEndpoint : String
  streamingEndpoint : String
  /-- The address of the output listener. -/
  outputAddress : String
  /-- The number of plans that are asked for. -/
  candidates : Nat
  /-- The bound on connecting to a manager and handing over one message. -/
  connectTimeout : Duration
  retry : RetryPolicy
  /-- The longest frame that is sent. -/
  sendLimit : Nat
  /-- The time for all workers together to become ready. -/
  readinessTimeout : Duration
  /-- The time that a producer has for one event. -/
  readTimeout : Duration
  /-- The longest frame that the output listener accepts. -/
  receiveLimit : Nat
deriving DecidableEq

/-- The plan that settings describe. What the output listener accepts may also be sent. -/
def Plan.ofSettings (s : Settings) : Plan where
  fabricEndpoint := s.fabricManager.endpoint.getD Settings.fabricAddress
  streamingEndpoint := s.streamingManager.endpoint.getD Settings.streamingAddress
  outputAddress := s.outputAddress
  candidates := s.partitionCandidates.toNat
  connectTimeout := .ofMillis s.connectTimeoutMs.toNat
  retry := .atLeastOnce s.maxAttempts (.ofMillis s.initialBackoffMs.toNat)
    (.ofMillis s.maxBackoffMs.toNat)
  sendLimit := s.maxFrameLength.toNat
  readinessTimeout := .ofSecs s.readinessTimeoutSecs.toNat
  readTimeout := .ofMillis s.readTimeoutMs.toNat
  receiveLimit := s.maxFrameLength.toNat

/-- The workers that settings describe, in the order in which they are started. The emitter's
endpoint is one that it sends to, so nobody looks at it. -/
def Settings.workers (s : Settings) : List ProcessWorker :=
  let interval := Duration.ofMillis s.probeIntervalMs.toNat
  [{ kind := .fabricManager, settings := s.fabricManager, probing := some interval },
   { kind := .emitter, settings := s.emitter },
   { kind := .streamingManager, settings := s.streamingManager, probing := some interval }]

end ControlPlane
