/-!
# Settings of workers

## Main definitions

- `WorkerSettings`: how a worker is reached and launched.
- `WorkerSettings.environment`: what is handed to its process.
-/

namespace ControlPlane

/-- How a worker is reached and launched. -/
structure WorkerSettings where
  /-- The address on which the worker listens, or to which it sends. -/
  endpoint : Option String := none
  /-- The command that launches it; without one it is run by somebody else. -/
  command : Option String := none
  args : List String := []
  /-- A secret that is handed to the worker as it is. -/
  credentials : Option String := none
  bufferSize : Option UInt64 := none
deriving DecidableEq

/-- The variables that are added to the environment of the worker's process, by name. -/
def WorkerSettings.environment (w : WorkerSettings) : List (String × String) :=
  [("SONATA_BUFFER_SIZE", w.bufferSize.map fun n => toString n.toNat),
   ("SONATA_CREDENTIALS", w.credentials),
   ("SONATA_ENDPOINT", w.endpoint)].filterMap fun (name, value) => value.map (name, ·)

end ControlPlane
