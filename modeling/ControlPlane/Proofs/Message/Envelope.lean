import ControlPlane.Message.Decoding
import ControlPlane.Proofs.Json.RoundTrip

/-!
# The envelope of a message

A body is sent inside an envelope, which is one level of nesting more. A frame that was written for
a body gives the body back, with the members of its objects in key order, if the whole frame nests
no deeper than the reader goes. Whatever other frame is read, its body is in order and leaves room
for the envelope.

## Main statements

- `Envelope.ofFrame_encodeBody`: reading the frame that carries a body.
- `Envelope.fits_of_ofFrame`: what the body of a frame that was read is like.
- `decodeWith_encodeBody`, `exists_of_decodeWith`: the same for messages.
-/

namespace ControlPlane

open Json (depth maxLevels readMember readMembers sorted Reader)

variable {body : Json}

theorem depth_envelope (body : Json) : depth (envelope body) = depth body + 1 := by
  rw [envelope, Json.depth_pair]
  exact congrArg (· + 1) (Nat.zero_max _)

theorem depth_envelope_le_iff : depth (envelope body) ≤ maxLevels ↔ depth body ≤ maxLevels - 1 := by
  have hlevels : maxLevels = maxLevels - 1 + 1 := rfl
  rw [depth_envelope, hlevels, Nat.add_le_add_iff_right, Nat.add_sub_cancel]

namespace Envelope

variable {rest : List UInt8}

/-! ## Frames that were written -/

/-- The version is read from its digits. -/
theorem readMember_version (hrest : Json.EndsNumber rest) :
    readMember fields {} "version" (Json.ascii ':' :: Json.print (.ofNat protocolVersion) ++ rest) =
      .ok ({ version := some protocolVersion }, rest) := by
  have hstart : Json.readStart (Json.print (.ofNat protocolVersion) ++ rest) =
      .ok (.scalar (.ofNat protocolVersion) rest) :=
    Json.readStart_printNat (by decide) hrest
  have hread : Json.readUnsigned 16 (Json.print (.ofNat protocolVersion) ++ rest) =
      .ok (protocolVersion, rest) := by
    simp only [Json.readUnsigned, hstart, bind, Except.bind]
    rfl
  rw [List.cons_append, Json.readMember_of_find? rfl rfl]
  dsimp only
  rw [hread]
  rfl

/-- The body is read back if there is room for it. -/
theorem readMember_body (h : body.Whole) (hrest : Json.EndsNumber rest) (version : Option Nat) :
    readMember fields { version } "body" (Json.ascii ':' :: Json.print body ++ rest) =
      if depth body ≤ maxLevels - 1 then .ok (⟨version, some (sorted body)⟩, rest)
      else .error .malformed := by
  rw [List.cons_append, Json.readMember_of_find? rfl rfl]
  dsimp only
  rw [Json.readsBack h _ rest hrest]
  split <;> rfl

/-- The inside of the envelope of a body. -/
def inside (body : Json) : List UInt8 :=
  Json.printMember ("version", .ofNat protocolVersion) ++
    Json.ascii ',' :: (Json.printMember ("body", body) ++ [Json.ascii '\x7d'])

/-- Both members are read, and then the envelope closes. -/
theorem readMembers_inside (h : body.Whole) (fuel : Nat) :
    readMembers Json.scanString (readMember fields) (fuel + 3) true {} (inside body) =
      if depth body ≤ maxLevels - 1 then .ok (⟨some protocolVersion, some (sorted body)⟩, [])
      else .error .malformed := by
  rw [inside, Json.readMembers_printMember (Json.nextEntry_printMember ..),
    readMember_version Json.endsNumber_comma]
  dsimp only
  rw [Json.readMembers_printMember (Json.nextEntry_comma_printMember ..),
    readMember_body h Json.endsNumber_brace]
  by_cases hdepth : depth body ≤ maxLevels - 1
  · simp only [hdepth, if_true]
    exact Json.readMembers_close ..
  · simp only [hdepth, if_false]

/-- The frame that carries a body gives it back, in key order, if it does not nest too deeply. -/
theorem ofFrame_encodeBody (h : body.Whole) :
    ofFrame (encodeBody body) =
      if depth (envelope body) ≤ maxLevels then .ok ⟨protocolVersion, sorted body⟩
      else .error .malformed := by
  have hframe : encodeBody body = Json.ascii '\x7b' :: inside body := by
    simp only [encodeBody, envelope, Json.print, Json.printMembers, Json.printMoreMembers, inside,
      List.append_nil, List.append_assoc, List.cons_append]
  obtain ⟨fuel, hfuel⟩ : ∃ fuel, (inside body).length + 1 = fuel + 3 := by
    refine ⟨(inside body).length - 2, ?_⟩
    simp only [inside, List.length_append, List.length_cons]
    omega
  rw [hframe, ofFrame, Json.ofText, Envelope.read, Json.readRecord_of_object rfl, hfuel,
    readMembers_inside h]
  by_cases hdepth : depth body ≤ maxLevels - 1
  · simp only [depth_envelope_le_iff, hdepth, if_true]
    rfl
  · simp only [depth_envelope_le_iff, hdepth, if_false]
    rfl

/-! ## Frames that were read -/

/-- The body, if it has been read, is in order and leaves room for the envelope. -/
def Partial.Fits (p : Partial) : Prop :=
  ∀ v, p.body = some v → depth v ≤ maxLevels - 1 ∧ v.Ordered

/-- Each field keeps the body in order and small enough. -/
theorem Partial.Fits.read {f : Json.Field Partial} (hf : f ∈ fields) {p q : Partial}
    {input rest : List UInt8} (hp : p.Fits) (h : f.read p input = .ok (q, rest)) : q.Fits := by
  rcases List.mem_cons.1 hf with rfl | hf
  · obtain ⟨_, -, hq⟩ := exists_of_map_eq_ok h
    cases hq
    exact hp
  · rcases List.mem_singleton.1 hf with rfl
    obtain ⟨⟨v, _⟩, hv, hq⟩ := exists_of_map_eq_ok h
    cases hq
    rintro w ⟨⟩
    exact Json.fits_of_readValue hv

/-- The body of a frame is in order, and the frame nests no deeper than the reader goes. -/
theorem fits_of_ofFrame {frame : List UInt8} {e : Envelope} (h : ofFrame frame = .ok e) :
    depth (envelope e.body) ≤ maxLevels ∧ e.body.Ordered := by
  obtain ⟨⟨read, rest⟩, hread, hend⟩ := exists_of_bind_eq_ok h
  obtain ⟨_, -, he⟩ := exists_of_bind_eq_ok hend
  obtain ⟨⟨p, _⟩, hp, hbody⟩ := exists_of_map_eq_ok hread
  cases he
  cases hbody
  have hempty : Partial.Fits {} := by
    intro v hv
    cases hv
  have hfits : p.Fits := Json.holds_of_readRecord (fun f hf => Partial.Fits.read hf) hempty hp
  rw [depth_envelope_le_iff]
  cases hv : p.body with
  | none => exact ⟨Nat.zero_le _, Json.ordered_of_depth rfl⟩
  | some v => exact hfits v hv

end Envelope

/-! ## Messages -/

variable {α : Type} {ofBody : Json → Except Json.Mismatch α}

/-- What decoding the frame of a body comes to. -/
theorem decodeWith_encodeBody (h : body.Whole) {m : α} (hm : ofBody (sorted body) = .ok m) :
    decodeWith ofBody (encodeBody body) =
      if depth (envelope body) ≤ maxLevels then .ok m else .error (.json .malformed) := by
  rw [decodeWith, Envelope.ofFrame_encodeBody h]
  by_cases hdepth : depth (envelope body) ≤ maxLevels
  · simp only [hdepth, if_true, hm, ne_eq, not_true_eq_false, if_false]
  · simp only [hdepth, if_false]

/-- A message that was decoded stood in a body that is in order and leaves room for the envelope. -/
theorem exists_of_decodeWith {frame : List UInt8} {m : α} (h : decodeWith ofBody frame = .ok m) :
    ∃ body, ofBody body = .ok m ∧ depth (envelope body) ≤ maxLevels ∧ body.Ordered := by
  rw [decodeWith] at h
  split at h
  · cases h
  · next e he =>
    split at h
    · cases h
    · split at h
      · cases h
      · next hbody =>
        cases h
        exact ⟨e.body, hbody, Envelope.fits_of_ofFrame he⟩

end ControlPlane
