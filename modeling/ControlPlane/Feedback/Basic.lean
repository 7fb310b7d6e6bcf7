import ControlPlane.Delivery.Channel

/-!
# Errors of the output listener

The output listener accepts connections of producers and forwards the events that they send to the
fabric manager.

## Main definitions

- `FeedbackError`: why the listener stopped.
-/

namespace ControlPlane

/-- Why the output listener stopped. -/
inductive FeedbackError
  /-- Its address could not be bound. -/
  | bind (address : String) (source : SystemError)
  /-- An event could not be forwarded. -/
  | forward (source : DistributorError)
deriving DecidableEq

/-- The text of an error. -/
def FeedbackError.message : FeedbackError → String
  | .bind address source =>
    "failed to bind output listener on " ++ address ++ ": " ++ source.message
  | .forward source => "failed to forward output event: " ++ source.message

end ControlPlane
