import ControlPlane.Proofs.Json.Shapes
import ControlPlane.Proofs.Message.Envelope

/-!
# Messages over the wire

A message that is encoded is decoded as itself, as long as its frame does not nest too deeply. A
message that was decoded, from whatever spelling of it, is encoded in a frame that is not too deep
either, so that it comes back as the same message and the same frame.

A payload is any value with whole numbers. Its objects have their keys in increasing order, each key
once, as all objects have that were read.

## Main definitions

- `ConfigMessage.payloads`, `StreamConfig.payloads`, `OutputEvent.payloads`: the free values in a
  message.
- `ComesBack`: a kind of message survives the way over the wire.

## Main statements

- `ConfigMessage.ofJson_sorted`, `StreamConfig.ofJson_sorted`, `OutputEvent.ofJson_sorted`: the
  value of a message, in key order, is accepted as that message.
- `ConfigMessage.payload_inside`, `OutputEvent.payload_mem_children`: a payload stands as deep in
  the body that was read as in the body that is written.
- `messages_come_back`: all three kinds of messages come back.
-/

namespace ControlPlane

open Json (depth sorted maxLevels depth_le_succ_iff)

/-! ## Payloads -/

/-- The free value in an event. -/
def OutputEvent.payloads (e : OutputEvent) : List Json := [e.payload]

/-- The free values in a change. -/
def DeltaContent.payloads : DeltaContent → List Json
  | .queries _ => []
  | .output e => e.payloads

/-- The free values in a message to the fabric manager. -/
def ConfigMessage.payloads : ConfigMessage → List Json
  | .init _ => []
  | .delta content => content.payloads

/-- The configuration of the streaming manager holds no free values. -/
def StreamConfig.payloads (_ : StreamConfig) : List Json := []

/-! ## Values that were written -/

theorem QueryId.slot_decode (id : QueryId) : QueryId.slot.decode (.ofNat id.toNat) = .ok id := by
  have hid : (id.toNat : Int).toNat < 1 <<< 64 := id.toNat_lt
  have hbits : Json.asUnsigned 64 (.ofNat id.toNat) = .ok id.toNat :=
    if_pos ⟨Int.natCast_nonneg _, hid⟩
  have hslot : QueryId.slot.decode (.ofNat id.toNat) =
      (Json.asUnsigned 64 (.ofNat id.toNat)).map UInt64.ofNat := rfl
  rw [hslot, hbits]
  exact congrArg Except.ok UInt64.ofNat_toNat

theorem CompiledQuery.ofJson_sorted (wording : Json.LengthWording) (record : String)
    (q : CompiledQuery) : CompiledQuery.ofJson wording record (sorted q.toJson) = .ok q := by
  have hrecord : Json.asRecord₂ wording record QueryId.slot ⟨"expr", Json.asText⟩
      (sorted q.toJson) = .ok (q.id, q.expr) :=
    Json.asRecord₂_members wording record (QueryId.slot_decode q.id) rfl (by decide)
  rw [CompiledQuery.ofJson, hrecord]
  rfl

theorem CompiledQuery.listOfJson_sorted (wording : Json.LengthWording) (plane : Plane)
    (queries : List CompiledQuery) :
    CompiledQuery.listOfJson wording plane (sorted (CompiledQuery.listToJson queries)) =
      .ok queries := by
  rw [CompiledQuery.listToJson, sorted, Json.sortedItems_eq_map, List.map_map]
  exact Json.asItems_map (CompiledQuery.ofJson_sorted wording _) queries

theorem StreamConfig.ofJson_sorted (c : StreamConfig) :
    StreamConfig.ofJson (sorted c.toJson) = .ok c := by
  have hsorted : sorted c.toJson =
      .object [("queries", sorted (CompiledQuery.listToJson c.queries))] := rfl
  rw [hsorted, StreamConfig.ofJson, Json.asRecord₁,
    Json.fill₁_cons_self (s := ⟨"queries", _⟩) (CompiledQuery.listOfJson_sorted ..)]
  rfl

theorem OutputEvent.ofJson_sorted (wording : Json.LengthWording) (e : OutputEvent)
    (h : ∀ v ∈ e.payloads, v.Ordered) :
    OutputEvent.ofJson wording (sorted e.toJson) = .ok e := by
  have hrecord : Json.asRecord₂ wording "struct OutputEvent" QueryId.slot ⟨"payload", .ok⟩
      (sorted e.toJson) = .ok (e.id, sorted e.payload) :=
    Json.asRecord₂_members wording _ (QueryId.slot_decode e.id) rfl (by decide)
  rw [OutputEvent.ofJson, hrecord, Json.sorted_of_ordered (h e.payload List.mem_cons_self)]
  rfl

theorem DeltaContent.ofJson_sorted (c : DeltaContent) (h : ∀ v ∈ c.payloads, v.Ordered) :
    DeltaContent.ofJson (sorted c.toJson) = .ok c := by
  cases c with
  | queries qs =>
    have htagged : DeltaContent.ofJson (sorted (DeltaContent.queries qs).toJson) =
        DeltaContent.ofTagged .queries (sorted (CompiledQuery.listToJson qs)) := rfl
    rw [htagged, DeltaContent.ofTagged, CompiledQuery.listOfJson_sorted]
    rfl
  | output e =>
    have htagged : DeltaContent.ofJson (sorted (DeltaContent.output e).toJson) =
        DeltaContent.ofTagged .output (sorted e.toJson) := rfl
    rw [htagged, DeltaContent.ofTagged, OutputEvent.ofJson_sorted _ e h]
    rfl

theorem ConfigMessage.ofJson_sorted (m : ConfigMessage) (h : ∀ v ∈ m.payloads, v.Ordered) :
    ConfigMessage.ofJson (sorted m.toJson) = .ok m := by
  cases m with
  | init qs =>
    have htagged : ConfigMessage.ofJson (sorted (ConfigMessage.init qs).toJson) =
        ConfigMessage.ofTagged .init (.object
          [("kind", .string "init"), ("queries", sorted (CompiledQuery.listToJson qs))]) := rfl
    rw [htagged, ConfigMessage.ofTagged, Json.asRecord₁, Json.fill₁_cons_of_ne (by decide),
      Json.fill₁_cons_self (s := ⟨"queries", _⟩) (CompiledQuery.listOfJson_sorted ..)]
    rfl
  | delta c =>
    have htagged : ConfigMessage.ofJson (sorted (ConfigMessage.delta c).toJson) =
        ConfigMessage.ofTagged .delta (.object
          [("delta", sorted c.toJson), ("kind", .string "delta")]) := rfl
    rw [htagged, ConfigMessage.ofTagged, Json.asRecord₁,
      Json.fill₁_cons_self (s := ⟨"delta", _⟩) (DeltaContent.ofJson_sorted c h),
      Json.fill₁_cons_of_ne (by decide)]
    rfl

/-! ## Numbers and depth of what is written -/

theorem CompiledQuery.whole_listToJson (queries : List CompiledQuery) :
    (listToJson queries).Whole :=
  Json.whole_array (List.forall_mem_map.2 fun q _ =>
    Json.whole_pair (Json.whole_ofNat q.id.toNat_lt) (Json.whole_string _))

theorem StreamConfig.whole_toJson (c : StreamConfig) : c.toJson.Whole :=
  Json.whole_singleton (CompiledQuery.whole_listToJson _)

theorem OutputEvent.whole_toJson (e : OutputEvent) (h : ∀ v ∈ e.payloads, v.Whole) :
    e.toJson.Whole :=
  Json.whole_pair (Json.whole_ofNat e.id.toNat_lt) (h e.payload List.mem_cons_self)

theorem DeltaContent.whole_toJson (c : DeltaContent) (h : ∀ v ∈ c.payloads, v.Whole) :
    c.toJson.Whole := by
  cases c with
  | queries qs => exact Json.whole_pair (Json.whole_string _) (CompiledQuery.whole_listToJson qs)
  | output e => exact Json.whole_pair (Json.whole_string _) (e.whole_toJson h)

theorem ConfigMessage.whole_toJson (m : ConfigMessage) (h : ∀ v ∈ m.payloads, v.Whole) :
    m.toJson.Whole := by
  cases m with
  | init qs => exact Json.whole_pair (Json.whole_string _) (CompiledQuery.whole_listToJson qs)
  | delta c => exact Json.whole_pair (Json.whole_string _) (c.whole_toJson h)

theorem CompiledQuery.depth_listToJson_le (queries : List CompiledQuery) :
    depth (listToJson queries) ≤ 2 := by
  refine depth_le_succ_iff.2 (List.forall_mem_map.2 fun q _ => ?_)
  exact Nat.le_of_eq Json.depth_pair

theorem StreamConfig.depth_toJson_le (c : StreamConfig) : depth c.toJson ≤ 3 :=
  depth_le_succ_iff.2 (List.forall_mem_singleton.2 (CompiledQuery.depth_listToJson_le _))

theorem OutputEvent.depth_toJson (e : OutputEvent) : depth e.toJson = depth e.payload + 1 := by
  rw [OutputEvent.toJson, Json.depth_pair]
  exact congrArg (· + 1) (Nat.zero_max _)

theorem DeltaContent.depth_toJson_output (e : OutputEvent) :
    depth (DeltaContent.output e).toJson = depth e.payload + 2 := by
  rw [DeltaContent.toJson, Json.depth_pair, e.depth_toJson]
  exact congrArg (· + 1) (Nat.zero_max _)

theorem ConfigMessage.depth_toJson_output (e : OutputEvent) :
    depth (ConfigMessage.delta (.output e)).toJson = depth e.payload + 3 := by
  rw [ConfigMessage.toJson, Json.depth_pair, DeltaContent.depth_toJson_output]
  exact congrArg (· + 1) (Nat.zero_max _)

/-- A message without payload does not nest deeply. -/
theorem ConfigMessage.depth_toJson_le {m : ConfigMessage} {n : Nat} (hn : 1 ≤ n)
    (h : ∀ v ∈ m.payloads, depth v ≤ n) : depth m.toJson ≤ n + 3 := by
  have hlist : ∀ qs, depth (CompiledQuery.listToJson qs) ≤ n + 1 := fun qs =>
    Nat.le_trans (CompiledQuery.depth_listToJson_le qs) (Nat.succ_le_succ hn)
  match m with
  | .init qs =>
    rw [ConfigMessage.toJson, Json.depth_pair]
    exact Nat.succ_le_succ (Nat.max_le.2 ⟨Nat.zero_le _, Nat.le_succ_of_le (hlist qs)⟩)
  | .delta (.queries qs) =>
    rw [ConfigMessage.toJson, Json.depth_pair, DeltaContent.toJson, Json.depth_pair]
    exact Nat.succ_le_succ (Nat.max_le.2 ⟨Nat.zero_le _,
      Nat.succ_le_succ (Nat.max_le.2 ⟨Nat.zero_le _, hlist qs⟩)⟩)
  | .delta (.output e) =>
    rw [ConfigMessage.depth_toJson_output]
    exact Nat.add_le_add_right (h e.payload List.mem_cons_self) 3

/-! ## Payloads of what was read -/

theorem Json.mem_children_of_member? {members : List (String × Json)} {key : String} {v : Json}
    (h : (object members).member? key = some v) : v ∈ (object members).children := by
  obtain ⟨m, hm, rfl⟩ := Option.map_eq_some_iff.1 h
  exact List.mem_map_of_mem (List.mem_of_find?_eq_some hm)

/-- The payload of an event stands directly inside the value of the event. -/
theorem OutputEvent.payload_mem_children {wording : Json.LengthWording} {v : Json} {e : OutputEvent}
    (h : OutputEvent.ofJson wording v = .ok e) : ∀ w ∈ e.payloads, w ∈ v.children := by
  obtain ⟨⟨id, payload⟩, hrecord, rfl⟩ := exists_of_map_eq_ok h
  obtain ⟨-, u, hu, hpayload⟩ := Json.exists_of_asRecord₂ hrecord
  intro w hw
  cases List.mem_singleton.1 hw
  cases hpayload
  exact hu

/-- A payload stands in the content of a change. -/
theorem DeltaContent.payload_mem_of_ofTagged {tag : Tag} {v : Json} {c : DeltaContent}
    (h : ofTagged tag v = .ok c) : ∀ w ∈ c.payloads, w ∈ v.children := by
  cases tag with
  | queries =>
    obtain ⟨qs, -, rfl⟩ := exists_of_map_eq_ok h
    exact List.forall_mem_nil _
  | output =>
    obtain ⟨e, he, rfl⟩ := exists_of_map_eq_ok h
    exact OutputEvent.payload_mem_children he

/-- A payload stands two levels inside the value of a change. -/
theorem DeltaContent.payload_inside {v : Json} {c : DeltaContent} (h : ofJson v = .ok c) :
    ∀ w ∈ c.payloads, ∃ u ∈ v.children, w ∈ u.children := by
  intro w hw
  cases v with
  | object members =>
    cases htype : (Json.object members).member? "type" with
    | none => simp only [ofJson, htype, reduceCtorEq] at h
    | some t =>
      cases hcontent : (Json.object members).member? "content" with
      | none =>
        simp only [ofJson, htype, hcontent] at h
        split at h <;> contradiction
      | some u =>
        simp only [ofJson, htype, hcontent] at h
        split at h
        · cases h
        · contradiction
        · next hu =>
          cases hu
          exact ⟨u, Json.mem_children_of_member? hcontent, payload_mem_of_ofTagged h w hw⟩
  | array items =>
    match items, h with
    | [t], h =>
      rw [ofJson] at h
      split at h <;> cases h
    | t :: u :: rest, h =>
      rw [ofJson] at h
      split at h
      · cases h
      · split at h
        · cases h
        · next hu =>
          split at h
          · cases h
            exact ⟨u, List.mem_cons_of_mem t List.mem_cons_self, payload_mem_of_ofTagged hu w hw⟩
          · cases h
  | null => cases h
  | bool b => cases h
  | number n => cases h
  | string s => cases h

/-- A payload stands three levels inside what follows the tag of a message. -/
theorem ConfigMessage.payload_inside_of_ofTagged {tag : Tag} {v : Json} {m : ConfigMessage}
    (h : ofTagged tag v = .ok m) :
    ∀ w ∈ m.payloads, ∃ u ∈ v.children, ∃ x ∈ u.children, w ∈ x.children := by
  cases tag with
  | init =>
    obtain ⟨qs, -, rfl⟩ := exists_of_map_eq_ok h
    exact List.forall_mem_nil _
  | delta =>
    obtain ⟨c, hc, rfl⟩ := exists_of_map_eq_ok h
    obtain ⟨u, hu, hcontent⟩ := Json.exists_of_asRecord₁ hc
    exact fun w hw => ⟨u, hu, DeltaContent.payload_inside hcontent w hw⟩

/-- A payload stands three levels inside the value of a message. -/
theorem ConfigMessage.payload_inside {v : Json} {m : ConfigMessage} (h : ofJson v = .ok m) :
    ∀ w ∈ m.payloads, ∃ u ∈ v.children, ∃ x ∈ u.children, w ∈ x.children := by
  intro w hw
  cases v with
  | object members =>
    rw [ofJson] at h
    split at h
    · cases h
    · split at h
      · cases h
      · exact payload_inside_of_ofTagged h w hw
  | array items =>
    match items, h with
    | t :: rest, h =>
      rw [ofJson] at h
      split at h
      · cases h
      · obtain ⟨u, hu, hinside⟩ := payload_inside_of_ofTagged h w hw
        exact ⟨u, List.mem_cons_of_mem t hu, hinside⟩
  | null => cases h
  | bool b => cases h
  | number n => cases h
  | string s => cases h

/-! ## The way over the wire -/

/-- A kind of message survives the way over the wire, up to the limit on nesting. The frame of a
message is the text of `value`. -/
structure ComesBack {α : Type} (encode : α → List UInt8)
    (decode : List UInt8 → Except ProtocolError α) (value : α → Json) (payloads : α → List Json) :
    Prop where
  /-- The frame is the text of the value. -/
  encode_eq (m : α) : encode m = Json.print (value m)
  /-- What is encoded is decoded as itself, or refused because it nests too deeply. -/
  decode_encode (m : α) : (∀ v ∈ payloads m, v.Whole ∧ v.Ordered) →
    decode (encode m) = if depth (value m) ≤ 127 then .ok m else .error (.json .malformed)
  /-- What was decoded from any frame is the same when it is encoded and decoded again, and so is
  its frame. -/
  decode_again (frame : List UInt8) (m : α) : decode frame = .ok m →
    (∀ v ∈ payloads m, v.Whole) →
    decode (encode m) = .ok m ∧ (decode (encode m)).map encode = .ok (encode m)

section ComesBack

variable {α : Type} {toJson : α → Json} {ofJson : Json → Except Json.Mismatch α}
  {payloads : α → List Json}

/-- Messages come back if their values are accepted, and if the values of those that were read do
not nest too deeply. -/
theorem comesBack
    (hwhole : ∀ m, (∀ v ∈ payloads m, v.Whole) → (toJson m).Whole)
    (haccept : ∀ m, (∀ v ∈ payloads m, v.Ordered) → ofJson (sorted (toJson m)) = .ok m)
    (hread : ∀ body m, ofJson body = .ok m → depth body ≤ maxLevels - 1 → body.Ordered →
      depth (toJson m) ≤ maxLevels - 1 ∧ ∀ v ∈ payloads m, v.Ordered) :
    ComesBack (fun m => encodeBody (toJson m)) (decodeWith ofJson) (fun m => envelope (toJson m))
      payloads where
  encode_eq _ := rfl
  decode_encode m h :=
    decodeWith_encodeBody (hwhole m fun v hv => (h v hv).1) (haccept m fun v hv => (h v hv).2)
  decode_again frame m hframe h := by
    obtain ⟨body, hbody, hdepth, hordered⟩ := exists_of_decodeWith hframe
    obtain ⟨hfits, hpayloads⟩ := hread body m hbody (depth_envelope_le_iff.1 hdepth) hordered
    have hm : decodeWith ofJson (encodeBody (toJson m)) = .ok m :=
      (decodeWith_encodeBody (hwhole m h) (haccept m hpayloads)).trans
        (if_pos (depth_envelope_le_iff.2 hfits))
    exact ⟨hm, by rw [hm]; rfl⟩

end ComesBack

theorem ConfigMessage.comesBack :
    ComesBack encode decode (fun m => envelope m.toJson) payloads := by
  refine ControlPlane.comesBack whole_toJson ofJson_sorted fun body m h hdepth hordered => ?_
  have hinside := payload_inside h
  refine ⟨depth_toJson_le (n := maxLevels - 4) (by decide) fun v hv => ?_, fun v hv => ?_⟩
  · obtain ⟨u, hu, w, hw, hvw⟩ := hinside v hv
    have hu' := Json.depth_lt_of_mem_children hu
    have hw' := Json.depth_lt_of_mem_children hw
    have hv' := Json.depth_lt_of_mem_children hvw
    omega
  · obtain ⟨u, hu, w, hw, hvw⟩ := hinside v hv
    exact ((hordered.child hu).child hw).child hvw

theorem StreamConfig.comesBack :
    ComesBack encode decode (fun c => envelope c.toJson) payloads :=
  ControlPlane.comesBack (fun c _ => c.whole_toJson) (fun c _ => c.ofJson_sorted)
    fun _ c _ _ _ => ⟨Nat.le_trans c.depth_toJson_le (by decide), List.forall_mem_nil _⟩

theorem OutputEvent.comesBack :
    ComesBack encode decode (fun e => envelope e.toJson) payloads := by
  refine ControlPlane.comesBack whole_toJson (ofJson_sorted .fewer)
    fun body e h hdepth hordered => ⟨?_, fun v hv => hordered.child (payload_mem_children h v hv)⟩
  have hpayload := payload_mem_children h e.payload List.mem_cons_self
  rw [depth_toJson]
  exact Nat.le_trans (Json.depth_lt_of_mem_children hpayload) hdepth

/-- All messages come back over the wire. -/
theorem messages_come_back :
    ComesBack ConfigMessage.encode ConfigMessage.decode (fun m => envelope m.toJson)
        ConfigMessage.payloads ∧
      ComesBack StreamConfig.encode StreamConfig.decode (fun c => envelope c.toJson)
        StreamConfig.payloads ∧
      ComesBack OutputEvent.encode OutputEvent.decode (fun e => envelope e.toJson)
        OutputEvent.payloads :=
  ⟨ConfigMessage.comesBack, StreamConfig.comesBack, OutputEvent.comesBack⟩

/-- An event that was spelled as an array, with blanks, an unknown member, an escape and keys out of
order, is encoded in another frame, and that one is kept. -/
theorem spelled_event_comes_back :
    let frame := Json.asciiList
      " \x7b\"x\":[\x7b\x7d],\"body\":[7, \x7b\"b\":-1,\"a\":\"\\u0041\\n\"\x7d],\"version\":1\x7d".toList
    let event : OutputEvent := ⟨7, .object [("a", .string "A\n"), ("b", .number (.int (-1)))]⟩
    OutputEvent.decode frame = .ok event ∧ event.encode ≠ frame ∧
      OutputEvent.decode event.encode = .ok event := by
  intro frame event
  have hframe : OutputEvent.decode frame = .ok event := by decide +kernel
  have hwhole : event.payload.Whole :=
    Json.whole_pair (Json.whole_string _) (.intro ⟨by decide, by decide⟩ (List.forall_mem_nil _))
  have hagain := messages_come_back.2.2.decode_again frame event hframe
    (List.forall_mem_singleton.2 hwhole)
  exact ⟨hframe, by decide +kernel, hagain.1⟩

end ControlPlane
