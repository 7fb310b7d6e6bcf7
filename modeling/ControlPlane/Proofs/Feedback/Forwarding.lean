import ControlPlane.Delivery.Distributor
import ControlPlane.Proofs.Message.RoundTrip

/-!
# Events in messages to the fabric manager

The output listener forwards an event inside a change to the configuration. The change stands two
levels of nesting and fifty-three octets around the event. So the fabric manager cannot read all
events that the listener can: the two deepest levels that a frame may have are lost.

## Main definitions

- `Json.nested`: arrays inside each other.

## Main statements

- `OutputEvent.fits_of_decode`: what an event that was read is like.
- `Outgoing.decode_frame_output`: reading the frame of a forwarded event.
- `Outgoing.length_frame_output`: the length of the frame of a forwarded event.
- `forwarded_event_read`: which of the events that the listener reads the fabric manager reads.
-/

namespace ControlPlane

open Json (depth maxLevels)

/-! ## Depth -/

/-- An event that was read leaves room for its record and its envelope. -/
theorem OutputEvent.fits_of_decode {frame : List UInt8} {e : OutputEvent}
    (h : OutputEvent.decode frame = .ok e) : depth e.payload ≤ 125 ∧ e.payload.Ordered := by
  obtain ⟨body, hbody, hdepth, hordered⟩ := exists_of_decodeWith h
  have hpayload := payload_mem_children hbody e.payload List.mem_cons_self
  have hlt : depth e.payload < depth body := Json.depth_lt_of_mem_children hpayload
  have hroom : depth body ≤ maxLevels - 1 := depth_envelope_le_iff.1 hdepth
  exact ⟨Nat.le_of_lt_succ (Nat.lt_of_lt_of_le hlt hroom), hordered.child hpayload⟩

/-- The frame of a forwarded event is read if the payload leaves room for what stands around it. -/
theorem Outgoing.decode_frame_output {e : OutputEvent} (hwhole : e.payload.Whole)
    (hordered : e.payload.Ordered) :
    ConfigMessage.decode (Outgoing.delta (.output e)).frame =
      if depth e.payload ≤ 123 then .ok (.delta (.output e)) else .error (.json .malformed) := by
  have hdecode := ConfigMessage.comesBack.decode_encode (.delta (.output e))
    (List.forall_mem_singleton.2 ⟨hwhole, hordered⟩)
  have hdepth : depth (envelope (ConfigMessage.delta (.output e)).toJson) ≤ 127 ↔
      depth e.payload ≤ 123 := by
    rw [depth_envelope, ConfigMessage.depth_toJson_output]
    omega
  simp only [hdepth] at hdecode
  exact hdecode

/-- An event that the listener has read nests at most 125 levels in its payload, and the fabric
manager reads it if these are at most 123. -/
theorem forwarded_event_read {frame : List UInt8} {e : OutputEvent}
    (h : OutputEvent.decode frame = .ok e) (hwhole : e.payload.Whole) :
    depth e.payload ≤ 125 ∧
      ConfigMessage.decode (Outgoing.delta (.output e)).frame =
        if depth e.payload ≤ 123 then .ok (.delta (.output e)) else .error (.json .malformed) := by
  obtain ⟨hdepth, hordered⟩ := OutputEvent.fits_of_decode h
  exact ⟨hdepth, Outgoing.decode_frame_output hwhole hordered⟩

/-- So many arrays inside each other. -/
def Json.nested : Nat → Json
  | 0 => .null
  | n + 1 => .array [nested n]

theorem Json.depth_nested (n : Nat) : depth (nested n) = n := by
  induction n with
  | zero => rfl
  | succ n ih => simp only [nested, depth, itemsDepth, ih, Nat.max_zero]

theorem Json.whole_nested (n : Nat) : (nested n).Whole := by
  induction n with
  | zero => exact .intro trivial (List.forall_mem_nil _)
  | succ n ih => exact whole_array (List.forall_mem_singleton.2 ih)

theorem Json.ordered_nested (n : Nat) : (nested n).Ordered := by
  induction n with
  | zero => exact .intro trivial (List.forall_mem_nil _)
  | succ n ih => exact .intro trivial (List.forall_mem_singleton.2 ih)

/-- The listener reads events with up to 125 arrays inside each other. -/
theorem OutputEvent.decode_encode_nested {n : Nat} (hn : n ≤ 125) (id : QueryId) :
    OutputEvent.decode (OutputEvent.encode ⟨id, Json.nested n⟩) = .ok ⟨id, Json.nested n⟩ := by
  have hdepth : depth (envelope (OutputEvent.toJson ⟨id, Json.nested n⟩)) ≤ 127 := by
    rw [depth_envelope, OutputEvent.depth_toJson, Json.depth_nested]
    omega
  exact (OutputEvent.comesBack.decode_encode ⟨id, Json.nested n⟩
    (List.forall_mem_singleton.2 ⟨Json.whole_nested n, Json.ordered_nested n⟩)).trans
      (if_pos hdepth)

/-- An event with 123 arrays inside each other is read on both sides. -/
theorem deepest_forwarded_event :
    OutputEvent.decode (OutputEvent.encode ⟨1, Json.nested 123⟩) = .ok ⟨1, Json.nested 123⟩ ∧
      ConfigMessage.decode (Outgoing.delta (.output ⟨1, Json.nested 123⟩)).frame =
        .ok (.delta (.output ⟨1, Json.nested 123⟩)) := by
  have hread := OutputEvent.decode_encode_nested (n := 123) (by decide) 1
  have hforwarded := (forwarded_event_read hread (Json.whole_nested 123)).2
  exact ⟨hread, hforwarded.trans (if_pos (Nat.le_of_eq (Json.depth_nested 123)))⟩

/-- An event with 124 arrays inside each other is read by the listener, and not by the fabric
manager to which it is forwarded. -/
theorem deeper_event_unreadable :
    OutputEvent.decode (OutputEvent.encode ⟨1, Json.nested 124⟩) = .ok ⟨1, Json.nested 124⟩ ∧
      ConfigMessage.decode (Outgoing.delta (.output ⟨1, Json.nested 124⟩)).frame =
        .error (.json .malformed) := by
  refine ⟨OutputEvent.decode_encode_nested (by decide) 1, ?_⟩
  rw [Outgoing.decode_frame_output (Json.whole_nested 124) (Json.ordered_nested 124),
    Json.depth_nested]
  exact if_neg (by decide)

/-! ## Length -/

/-- An object of two members takes five octets besides its keys and its values. -/
theorem Json.length_print_pair (k l : String) (v w : Json) :
    (print (object [(k, v), (l, w)])).length =
      (printString k).length + (print v).length + (printString l).length + (print w).length +
        5 := by
  simp only [print, printMembers, printMoreMembers, printMember, List.length_append,
    List.length_cons, List.length_nil]
  omega

/-- A forwarded event takes fifty-three octets more than the event. -/
theorem Outgoing.length_frame_output (e : OutputEvent) :
    (Outgoing.delta (.output e)).frame.length = e.encode.length + 53 := by
  have hprint (s : String) : Json.print (.string s) = Json.printString s := rfl
  have hkind : (Json.printString "kind").length = 6 := by decide
  have hdelta : (Json.printString "delta").length = 7 := by decide
  have htype : (Json.printString "type").length = 6 := by decide
  have houtput : (Json.printString "output").length = 8 := by decide
  have hcontent : (Json.printString "content").length = 9 := by decide
  simp only [frame, ConfigMessage.encode, OutputEvent.encode, encodeBody, envelope,
    ConfigMessage.toJson, DeltaContent.toJson, Json.length_print_pair, hprint]
  omega

end ControlPlane
