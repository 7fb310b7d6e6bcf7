import ControlPlane.Feedback.Basic

/-!
# Kinds and errors of workers

## Main definitions

- `WorkerKind`: what a worker is for, in the order in which workers are started.
- `WorkerError`: why a worker did not do its work to the end.
-/

namespace ControlPlane

/-- What a worker is for. -/
inductive WorkerKind
  | fabricManager
  | emitter
  | streamingManager
  | outputListener
deriving DecidableEq

namespace WorkerKind

/-- The kinds in the order in which workers are started. -/
def all : List WorkerKind := [.fabricManager, .emitter, .streamingManager, .outputListener]

/-- The place of a kind in the order in which workers are started. -/
def rank : WorkerKind → Nat
  | .fabricManager => 0
  | .emitter => 1
  | .streamingManager => 2
  | .outputListener => 3

/-- The name of a kind. -/
def name : WorkerKind → String
  | .fabricManager => "fabric-manager"
  | .emitter => "emitter"
  | .streamingManager => "streaming-manager"
  | .outputListener => "output-listener"

end WorkerKind

/-- Why a worker did not do its work to the end. -/
inductive WorkerError
  /-- Its command could not be launched. -/
  | spawn (kind : WorkerKind) (command : String) (source : SystemError)
  | bind (kind : WorkerKind) (address : String) (source : SystemError)
  /-- It did not say in time that it was ready. -/
  | readinessTimeout (kind : WorkerKind) (limit : Duration)
  /-- It stopped by itself. -/
  | exited (kind : WorkerKind) (status : String)
  | panicked (kind : WorkerKind) (reason : String)
  /-- The output listener failed. -/
  | feedback (source : FeedbackError)
deriving DecidableEq

/-- The text of an error. -/
def WorkerError.message : WorkerError → String
  | .spawn kind command source =>
    "failed to launch " ++ kind.name ++ " command '" ++ command ++ "': " ++ source.message
  | .bind kind address source =>
    kind.name ++ " failed to bind " ++ address ++ ": " ++ source.message
  | .readinessTimeout kind limit => kind.name ++ " not ready after " ++ limit.text
  | .exited kind status => kind.name ++ " exited: " ++ status
  | .panicked kind reason => kind.name ++ " panicked: " ++ reason
  | .feedback source => "output listener failed: " ++ source.message

end ControlPlane
