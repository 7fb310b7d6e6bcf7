import ControlPlane.Delivery.Retry
import ControlPlane.Frame
import ControlPlane.Path
import ControlPlane.Pipeline.Basic
import ControlPlane.Worker.Settings

/-!
# Settings

## Main definitions

- `Settings`: everything that can be configured.
- `Settings.standard`: the values that hold unless something else is set.
- `Settings.same`: equality of settings, where the spelling of a path does not count.
-/

namespace ControlPlane

/-- Everything that can be configured. -/
structure Settings where
  /-- The address of the output listener. -/
  outputAddress : String
  fabricManager : WorkerSettings
  streamingManager : WorkerSettings
  emitter : WorkerSettings
  /-- The bound on connecting to a manager and handing over one message. -/
  connectTimeoutMs : UInt64
  maxAttempts : UInt32
  initialBackoffMs : UInt64
  maxBackoffMs : UInt64
  /-- The number of plans that are asked for. -/
  partitionCandidates : UInt64
  /-- The time for all workers together to become ready. -/
  readinessTimeoutSecs : UInt64
  /-- The time between two looks at whether an endpoint is up. -/
  probeIntervalMs : UInt64
  /-- The time that a producer has for one event. -/
  readTimeoutMs : UInt64
  maxFrameLength : UInt64
  logDirectory : Path
  logFile : String
deriving DecidableEq

namespace Settings

/-- The address of the fabric manager, unless another one is set. -/
def fabricAddress : String := "127.0.0.1:6666"

/-- The address of the streaming manager, unless another one is set. -/
def streamingAddress : String := "127.0.0.1:5555"

/-- The name of the log file, unless another one is set. -/
def standardLogFile : String := "sonata.log"

/-- The directory of the program's own files: in the home directory, or where the program stands if
no home directory is known. -/
def directory (home : Option Path) : Path := (home.getD (.ofText ".")).join (.ofText ".sonata")

/-- The path of the configuration file. -/
def path (home : Option Path) : Path := (directory home).join (.ofText "config.ini")

/-- The settings that hold unless something else is set. -/
def standard (home : Option Path) : Settings where
  outputAddress := "127.0.0.1:4949"
  fabricManager := { endpoint := some fabricAddress }
  streamingManager := { endpoint := some streamingAddress }
  emitter := {}
  connectTimeoutMs := 2000
  maxAttempts := RetryPolicy.standard.maxAttempts
  initialBackoffMs := UInt64.ofNat RetryPolicy.standard.initial.millis
  maxBackoffMs := UInt64.ofNat RetryPolicy.standard.longest.millis
  partitionCandidates := UInt64.ofNat defaultCandidates
  readinessTimeoutSecs := 30
  probeIntervalMs := 100
  readTimeoutMs := 5000
  maxFrameLength := UInt64.ofNat Frame.defaultLimit
  logDirectory := (directory home).join (.ofText "logs")
  logFile := standardLogFile

/-- Whether two settings are equal, where only the components of the log directory count. -/
def same (s t : Settings) : Bool :=
  Path.same s.logDirectory t.logDirectory && s == { t with logDirectory := s.logDirectory }

end Settings

end ControlPlane
