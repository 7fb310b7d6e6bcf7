/-!
# Comparing outcomes

An outcome is a value or an error; two outcomes can be told apart if their values and their errors
can.
-/

namespace ControlPlane

/-- Equality of outcomes is decided by their parts. -/
instance Outcome.decEq {ε α : Type} [DecidableEq ε] [DecidableEq α] : DecidableEq (Except ε α)
  | .ok a, .ok b => if h : a = b then isTrue (by rw [h]) else isFalse (by simpa using h)
  | .error a, .error b => if h : a = b then isTrue (by rw [h]) else isFalse (by simpa using h)
  | .ok _, .error _ => isFalse (by simp)
  | .error _, .ok _ => isFalse (by simp)

end ControlPlane
