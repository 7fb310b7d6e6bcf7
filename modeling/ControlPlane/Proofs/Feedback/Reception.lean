import ControlPlane.Feedback.Reception
import ControlPlane.Proofs.Frame.Streams

/-!
# The first frame of a connection

A reader finds a frame just where a writer with the same limit could have put it: behind its length,
whole, and with anything after it.

## Main definitions

- `Transmission.Gives`: a connection gives an event.

## Main statements

- `Transmission.event?_eq_some_iff`: which connections give an event.
-/

namespace ControlPlane

namespace Transmission

variable {limit : Nat} {t : Transmission}

/-- The first frame of a connection is whole and not longer than the limit. -/
theorem frame?_eq_some_iff {frame : List UInt8} :
    t.frame? limit = some frame ↔ frame.length ≤ Frame.effectiveLimit limit ∧
      ∃ rest, t.octets = Frame.lengthOctets frame.length ++ frame ++ rest := by
  constructor
  · intro h
    unfold frame? at h
    split at h
    · next rest hread =>
      cases h
      obtain ⟨hlimit, hoctets⟩ := Frame.read_eq_frame_iff.1 hread
      exact ⟨hlimit, rest, hoctets⟩
    · cases h
  · rintro ⟨hlimit, rest, hoctets⟩
    rw [frame?, Frame.read_eq_frame_iff.2 ⟨hlimit, hoctets⟩]

/-- The first frame of a connection is whole, not longer than the limit, and carries the event. What
follows that frame does not matter. -/
def Gives (limit : Nat) (t : Transmission) (e : OutputEvent) : Prop :=
  ∃ frame rest : List UInt8, frame.length ≤ Frame.effectiveLimit limit ∧
    t.octets = Frame.lengthOctets frame.length ++ frame ++ rest ∧
    OutputEvent.decode frame = .ok e

theorem event?_eq_some_iff {e : OutputEvent} : t.event? limit = some e ↔ t.Gives limit e := by
  constructor
  · intro h
    unfold event? at h
    split at h
    · cases h
    · next frame hframe =>
      obtain ⟨hlimit, rest, hoctets⟩ := frame?_eq_some_iff.1 hframe
      split at h
      · next hdecode =>
        cases h
        exact ⟨frame, rest, hlimit, hoctets, hdecode⟩
      · cases h
  · rintro ⟨frame, rest, hlimit, hoctets, hdecode⟩
    rw [event?, frame?_eq_some_iff.2 ⟨hlimit, rest, hoctets⟩]
    simp only [hdecode]

end Transmission

end ControlPlane
