import ControlPlane.Config.Settings
import ControlPlane.Ini.Basic
import ControlPlane.SystemError
import ControlPlane.Text.Numeral

/-!
# Settings of a document

The standard settings hold, except where the document has a key that is known. Keys are looked at in
a fixed order, and the first one with a value that its rule refuses is reported.

## Main definitions

- `ConfigError`: why there are no settings.
- `Settings.Rule`: a known key, and what its value does to the settings.
- `Settings.peerRules`, `Settings.programRules`, `Settings.rules`: all rules, in their order.
- `Settings.ofDocument`: the settings of a document.
-/

namespace ControlPlane

/-- Why there are no settings, or they were not written. -/
inductive ConfigError
  /-- The file could not be read, or is no document. -/
  | read (reason : String)
  | write (reason : String)
  /-- A key has a value that it may not have. -/
  | invalidValue (sectionName key value reason : String)
  /-- The directory of the file could not be created. -/
  | directory (source : SystemError)
deriving DecidableEq

/-- The text of an error. -/
def ConfigError.message : ConfigError → String
  | .read reason => "Failed to read config file: " ++ reason
  | .write reason => "Failed to write config file: " ++ reason
  | .invalidValue sectionName key value reason =>
    "Invalid configuration: " ++ sectionName ++ "." ++ key ++ " = '" ++ value ++ "' - " ++ reason
  | .directory source => "Failed to create config directory: " ++ source.message

namespace Settings

/-- A change of settings by the value of a key, or the reason why the value is refused. -/
abbrev Change := String → Settings → Except String Settings

/-- A step in reading a document. -/
inductive Rule
  /-- A known key. -/
  | key (sectionName name : String) (change : Change)
  /-- The comparison of both bounds on the backoff, in a document that sets anything about
  deliveries. -/
  | backoffOrder

/-- What the settings of one worker become. -/
abbrev OnWorker := (WorkerSettings → WorkerSettings) → Settings → Settings

/-- The value without the blanks around it, if anything is left. -/
def present? (value : String) : Option String :=
  let value := Text.trimmed value
  if value.isEmpty then none else some value

/-- The value must not be blank. -/
def address (set : String → Settings → Settings) : Change := fun value s =>
  match present? value with
  | some v => .ok (set v s)
  | none => .error "must be a host:port address"

/-- A blank value means that nothing is set. -/
def option (set : Option String → Settings → Settings) : Change := fun value s =>
  .ok (set (present? value) s)

/-- A blank value changes nothing. -/
def unlessBlank (set : String → Settings → Settings) : Change := fun value s =>
  match present? value with
  | some v => .ok (set v s)
  | none => .ok s

/-- The value must be a number below `2 ^ bits`. -/
def number (bits : Nat) (set : Nat → Settings → Settings) : Change := fun value s =>
  match Text.unsigned? (1 <<< bits) (Text.trim value.toList) with
  | some n => .ok (set n s)
  | none => .error "must be a non-negative integer"

/-- The value must be a number below `2 ^ bits`, and not zero. -/
def positive (bits : Nat) (set : Nat → Settings → Settings) : Change := fun value s =>
  match Text.unsigned? (1 <<< bits) (Text.trim value.toList) with
  | some n => if n = 0 then .error "must be a positive integer" else .ok (set n s)
  | none => .error "must be a positive integer"

/-- A blank value means that nothing is set; any other must be a number that is not zero. -/
def optionalPositive (bits : Nat) (set : Option Nat → Settings → Settings) : Change :=
  fun value s =>
  match present? value with
  | none => .ok (set none s)
  | some _ => positive bits (set ∘ some) value s

/-- The rules for the keys that all workers have. -/
def workerRules (sectionName : String) (on : OnWorker) : List Rule :=
  [.key sectionName "command" (option fun v => on fun w => { w with command := v }),
   .key sectionName "args" fun value s =>
     .ok (on (fun w => { w with args := (Text.words value.toList).map String.ofList }) s),
   .key sectionName "credentials" (option fun v => on fun w => { w with credentials := v }),
   .key sectionName "buffer_size" (optionalPositive 64 fun v => on fun w =>
     { w with bufferSize := v.map UInt64.ofNat })]

/-- Changes the settings of the fabric manager. -/
def onFabric : OnWorker := fun f s => { s with fabricManager := f s.fabricManager }

/-- Changes the settings of the streaming manager. -/
def onStreaming : OnWorker := fun f s => { s with streamingManager := f s.streamingManager }

/-- Changes the settings of the emitter. -/
def onEmitter : OnWorker := fun f s => { s with emitter := f s.emitter }

/-- The rules about the other parties and the deliveries to them. -/
def peerRules : List Rule :=
  [.key "runtime" "fm_socket" (address fun v => onFabric fun w => { w with endpoint := some v }),
   .key "runtime" "op_socket" (address fun v s => { s with outputAddress := v })] ++
  workerRules "fm_conf" onFabric ++
  [.key "sm_conf" "sm_socket"
     (address fun v => onStreaming fun w => { w with endpoint := some v })] ++
  workerRules "sm_conf" onStreaming ++
  [.key "emitter_conf" "socket" (option fun v => onEmitter fun w => { w with endpoint := v })] ++
  workerRules "emitter_conf" onEmitter ++
  [.key "distributor" "connect_timeout_ms"
     (positive 64 fun n s => { s with connectTimeoutMs := UInt64.ofNat n }),
   .key "distributor" "max_attempts"
     (positive 32 fun n s => { s with maxAttempts := UInt32.ofNat n }),
   .key "distributor" "initial_backoff_ms"
     (number 64 fun n s => { s with initialBackoffMs := UInt64.ofNat n }),
   .key "distributor" "max_backoff_ms"
     (number 64 fun n s => { s with maxBackoffMs := UInt64.ofNat n })]

/-- The rules about the program itself. -/
def programRules (home : Option Path) : List Rule :=
  [.key "pipeline" "partition_candidates"
     (positive 64 fun n s => { s with partitionCandidates := UInt64.ofNat n }),
   .key "bootstrap" "readiness_timeout_secs"
     (positive 64 fun n s => { s with readinessTimeoutSecs := UInt64.ofNat n }),
   .key "bootstrap" "probe_interval_ms"
     (positive 64 fun n s => { s with probeIntervalMs := UInt64.ofNat n }),
   .key "feedback" "read_timeout_ms"
     (positive 64 fun n s => { s with readTimeoutMs := UInt64.ofNat n }),
   .key "feedback" "max_frame_length"
     (positive 64 fun n s => { s with maxFrameLength := UInt64.ofNat n }),
   .key "logging" "directory"
     (unlessBlank fun v s => { s with logDirectory := Path.expandHome home v }),
   .key "logging" "file" (unlessBlank fun v s => { s with logFile := v })]

/-- All rules, in the order in which they are applied. The bounds on the backoff are compared when
both have been read. -/
def rules (home : Option Path) : List Rule := peerRules ++ .backoffOrder :: programRules home

/-- The settings after one rule. -/
def Rule.apply (document : Ini.Document) (s : Settings) : Rule → Except ConfigError Settings
  | .key sectionName name change =>
    match (document.section? sectionName).bind (·.get? name) with
    | none => .ok s
    | some value => (change value s).mapError (.invalidValue sectionName name value)
  | .backoffOrder =>
    if (document.section? "distributor").isSome && s.maxBackoffMs < s.initialBackoffMs then
      .error (.invalidValue "distributor" "max_backoff_ms" (toString s.maxBackoffMs.toNat)
        "must not be smaller than initial_backoff_ms")
    else .ok s

/-- The settings after several rules. -/
def applyRules (document : Ini.Document) : List Rule → Settings → Except ConfigError Settings
  | [], s => .ok s
  | rule :: rest, s =>
    match rule.apply document s with
    | .error e => .error e
    | .ok s => applyRules document rest s

/-- The settings of a document. -/
def ofDocument (home : Option Path) (document : Ini.Document) : Except ConfigError Settings :=
  applyRules document (rules home) (standard home)

end Settings

end ControlPlane
