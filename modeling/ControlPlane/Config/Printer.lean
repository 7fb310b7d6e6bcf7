import ControlPlane.Config.Settings
import ControlPlane.Ini.Basic

/-!
# Writing settings

Settings are written as a document with a comment for each key that needs one. Every key is written;
one that is not set has an empty value.

## Main definitions

- `Settings.lines`: the document.
- `Settings.toIni`: its text.
-/

namespace ControlPlane

open Ini (Line)

/-- A value that may be missing. -/
def Settings.optional (value : Option String) : String := value.getD ""

/-- The entries that all workers have. -/
def WorkerSettings.lines (w : WorkerSettings) : List Line :=
  [.entry "command" (Settings.optional w.command),
   .entry "args" (String.intercalate " " w.args),
   .entry "credentials" (Settings.optional w.credentials),
   .entry "buffer_size" (Settings.optional (w.bufferSize.map fun n => toString n.toNat))]

namespace Settings

/-- The document that holds the settings. -/
def lines (s : Settings) : List Line :=
  [.header "runtime",
   .comment "Fabric manager control endpoint (host:port)",
   .entry "fm_socket" (optional s.fabricManager.endpoint),
   .comment "Address the output listener binds (host:port)",
   .entry "op_socket" s.outputAddress,
   .blank,
   .header "fm_conf",
   .comment "Command launching the fabric manager. Leave empty when it runs elsewhere."] ++
  s.fabricManager.lines ++
  [.blank,
   .header "sm_conf",
   .comment "Streaming manager control endpoint (host:port)",
   .entry "sm_socket" (optional s.streamingManager.endpoint)] ++
  s.streamingManager.lines ++
  [.blank,
   .header "emitter_conf",
   .comment "Address the emitter sends to (host:port), optional",
   .entry "socket" (optional s.emitter.endpoint)] ++
  s.emitter.lines ++
  [.blank,
   .header "distributor",
   .comment "Timeout for connecting to a manager and handing over one message (ms)",
   .entry "connect_timeout_ms" (toString s.connectTimeoutMs.toNat),
   .comment "Delivery attempts before giving up (minimum 1)",
   .entry "max_attempts" (toString s.maxAttempts.toNat),
   .comment "Backoff after the first failed attempt; doubles per attempt (ms)",
   .entry "initial_backoff_ms" (toString s.initialBackoffMs.toNat),
   .comment "Upper bound on the backoff (ms)",
   .entry "max_backoff_ms" (toString s.maxBackoffMs.toNat),
   .blank,
   .header "pipeline",
   .comment "Partition plans proposed per refined query",
   .entry "partition_candidates" (toString s.partitionCandidates.toNat),
   .blank,
   .header "bootstrap",
   .comment "Time allowed for all workers to become ready (seconds)",
   .entry "readiness_timeout_secs" (toString s.readinessTimeoutSecs.toNat),
   .comment "Interval between endpoint readiness probes (ms)",
   .entry "probe_interval_ms" (toString s.probeIntervalMs.toNat),
   .blank,
   .header "feedback",
   .comment "Time allowed for a producer to deliver one output event (ms)",
   .entry "read_timeout_ms" (toString s.readTimeoutMs.toNat),
   .comment "Largest accepted message (bytes)",
   .entry "max_frame_length" (toString s.maxFrameLength.toNat),
   .blank,
   .header "logging",
   .comment "Log directory (default: ~/.sonata/logs)",
   .entry "directory" s.logDirectory.text,
   .entry "file" s.logFile]

/-- The text of the document that holds the settings. -/
def toIni (s : Settings) : String := Ini.render s.lines

end Settings

end ControlPlane
