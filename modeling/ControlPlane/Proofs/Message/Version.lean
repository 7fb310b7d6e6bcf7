import ControlPlane.Message.Decoding
import ControlPlane.Proofs.Json.Records

/-!
# The version of a frame

An envelope is read for its version before its body is looked at. So whoever sends a frame of
another version is told so, however the envelope is written and whatever its body is, and no message
is taken out of a frame that is not an envelope of this version. A body is still part of the text:
where its octets denote no value at all, there is no envelope.

## Main definitions

- `Envelope.Parts`: the frames that are envelopes, by the texts of their version and body.
- `Envelope.Written`: the frames of an envelope.
- `Gated`: what a decoder makes of the versions of its frames.

## Main statements

- `Envelope.ofFrame_eq_ok_iff`: an envelope is read from its frames and from no others.
- `Envelope.Parts.exists_split`: the body of a frame may be exchanged for any other one.
- `version_gate`: the decoders of all messages are gated by the version.
- `strings_checked_in_bodies_only`: strings that nobody asks for may hold anything.
-/

namespace ControlPlane

open Json (Along Blanks Denotes Entries Filled ItemTexts MemberText MemberTexts Mismatch NaturalText
  Once ReadsAll ReadsOnly RecordText Skimmed SpellsText Starts Taken ascii maxLevels)

namespace Envelope

/-- The text of a version. -/
def VersionText : List UInt8 → Nat → Prop := NaturalText 16

/-- The text of a body, which nests one level less than a whole frame. -/
def BodyText : List UInt8 → Json → Prop := Denotes (maxLevels - 1)

/-- Members beside those of an envelope are passed over. -/
def Others (members : List (String × List UInt8)) : Prop :=
  ∀ m ∈ members, m.1 ≠ "version" → m.1 ≠ "body" → Skimmed m.2

/-- A frame in which `version` and `body` stand for the fields of an envelope: an object with each
of them once, in any place among any other members, or an array of the two. -/
inductive Parts (version body : List UInt8) : List UInt8 → Prop
  | object {ws inside ws' : List UInt8} {members : List (String × List UInt8)} (front : Blanks ws)
      (back : Blanks ws') (cut : MemberTexts SpellsText inside members)
      (versionOnce : members.filter (·.1 == "version") = [("version", version)])
      (bodyOnce : members.filter (·.1 == "body") = [("body", body)])
      (others : Others members) :
      Parts version body (ws ++ (ascii '\x7b' :: inside ++ ws'))
  | array {ws inside ws' : List UInt8} (front : Blanks ws) (back : Blanks ws')
      (cut : ItemTexts inside [version, body]) :
      Parts version body (ws ++ (ascii '[' :: inside ++ ws'))

/-- `frame` is written for an envelope. -/
def Written (e : Envelope) (frame : List UInt8) : Prop :=
  ∃ version body, VersionText version e.version ∧ BodyText body e.body ∧ Parts version body frame

/-! ## Reading an envelope -/

/-- What the text of a field makes of an envelope that is being filled. -/
inductive Takes (key : String) (p : Partial) (text : List UInt8) : Partial → Prop
  | version {n : Nat} (name : key = "version") (here : VersionText text n) :
      Takes key p text { p with version := some n }
  | body {v : Json} (name : key = "body") (here : BodyText text v) :
      Takes key p text { p with body := some v }

theorem Takes.starts {key : String} {p q : Partial} {text : List UInt8} (h : Takes key p text q) :
    Starts text := by
  cases h with
  | version _ here => exact (here.scalarText (by decide)).skimmed.starts
  | body _ here => exact (Denotes.skimmed here).starts

theorem readsOnly_field (f : Json.Field Partial) (hf : f ∈ fields) (p : Partial) :
    ReadsOnly (f.read p) (Takes f.key p) := by
  rcases List.mem_cons.1 hf with rfl | hf
  · intro input q rest h
    obtain ⟨ws, text, hws, ⟨n, hn, rfl⟩, hinput⟩ :=
      (Json.readsOnly_readUnsigned 16).map (f := fun n => { p with version := some n }) h
    exact ⟨ws, text, hws, .version rfl hn, hinput⟩
  · rcases List.mem_singleton.1 hf with rfl
    intro input q rest h
    obtain ⟨ws, text, hws, ⟨v, hv, rfl⟩, hinput⟩ :=
      (Json.readsOnly_readValue _).map (f := fun v => { p with body := some v }) h
    exact ⟨ws, text, hws, .body rfl hv, hinput⟩

theorem readsAll_field (f : Json.Field Partial) (hf : f ∈ fields) (p : Partial) :
    ReadsAll (f.read p) (Takes f.key p) := by
  rcases List.mem_cons.1 hf with rfl | hf
  · intro ws text q rest hws h hrest
    cases h with
    | version _ here =>
      exact (Json.readsAll_readUnsigned (by decide)).map
        (f := fun n => { p with version := some n }) hws ⟨_, here, rfl⟩ hrest
    | body name _ => exact absurd name (by decide)
  · rcases List.mem_singleton.1 hf with rfl
    intro ws text q rest hws h hrest
    cases h with
    | version name _ => exact absurd name (by decide)
    | body _ here =>
      exact (Json.readsAll_readValue _).map
        (f := fun v => { p with body := some v }) hws ⟨_, here, rfl⟩ hrest

/-! ## The two forms -/

variable {p q : Partial} {m : String × List UInt8} {members : List (String × List UInt8)}

theorem taken_version_iff {text : List UInt8} :
    Taken fields Takes p ("version", text) q ↔
      p.version = none ∧ ∃ n, VersionText text n ∧ q = { p with version := some n } := by
  constructor
  · intro h
    cases h with
    | field known missing here =>
      cases known
      cases here with
      | version _ here =>
        exact ⟨Option.isNone_iff_eq_none.1 (Option.isSome_eq_false_iff.1 missing), _, here, rfl⟩
      | body name _ => exact absurd name (by decide)
    | other unknown _ => cases unknown
  · rintro ⟨hnone, n, hn, rfl⟩
    exact .field rfl (congrArg Option.isSome hnone) (.version rfl hn)

theorem taken_body_iff {text : List UInt8} :
    Taken fields Takes p ("body", text) q ↔
      p.body = none ∧ ∃ v, BodyText text v ∧ q = { p with body := some v } := by
  constructor
  · intro h
    cases h with
    | field known missing here =>
      cases known
      cases here with
      | version name _ => exact absurd name (by decide)
      | body _ here =>
        exact ⟨Option.isNone_iff_eq_none.1 (Option.isSome_eq_false_iff.1 missing), _, here, rfl⟩
    | other unknown _ => cases unknown
  · rintro ⟨hnone, v, hv, rfl⟩
    exact .field rfl (congrArg Option.isSome hnone) (.body rfl hv)

theorem taken_other_iff (hversion : m.1 ≠ "version") (hbody : m.1 ≠ "body") :
    Taken fields Takes p m q ↔ Skimmed m.2 ∧ q = p := by
  have hunknown : fields.find? (·.key == m.1) = none := by
    simp only [fields, List.find?_cons, List.find?_nil, beq_false_of_ne hversion.symm,
      beq_false_of_ne hbody.symm]
  obtain ⟨key, text⟩ := m
  constructor
  · intro h
    cases h with
    | field known _ _ => cases hunknown.symm.trans known
    | other _ skimmed => exact ⟨skimmed, rfl⟩
  · rintro ⟨hskimmed, rfl⟩
    exact .other hunknown hskimmed

theorem others_cons_iff : Others (m :: members) ↔
    (m.1 ≠ "version" → m.1 ≠ "body" → Skimmed m.2) ∧ Others members :=
  List.forall_mem_cons

/-- The members fill the two fields independently of each other. -/
theorem along_iff : Along (Taken fields Takes) p members q ↔
    Once "version" VersionText members p.version q.version ∧
      Once "body" BodyText members p.body q.body ∧ Others members := by
  induction members generalizing p with
  | nil =>
    rw [Once.nil_iff, Once.nil_iff]
    constructor
    · rintro ⟨⟩
      exact ⟨rfl, rfl, fun m hm => absurd hm List.not_mem_nil⟩
    · rintro ⟨hversion, hbody, -⟩
      obtain ⟨version, body⟩ := p
      obtain ⟨version', body'⟩ := q
      dsimp only at hversion hbody
      subst hversion hbody
      exact .nil
  | cons m members ih =>
    obtain ⟨key, text⟩ := m
    rw [Along.cons_iff, others_cons_iff]
    by_cases hversion : key = "version"
    · subst hversion
      rw [Once.cons_iff_self, Once.cons_iff_of_ne (by decide)]
      constructor
      · rintro ⟨r, hr, halong⟩
        obtain ⟨hnone, n, hn, rfl⟩ := taken_version_iff.1 hr
        obtain ⟨honce, hbody, hothers⟩ := ih.1 halong
        exact ⟨⟨hnone, n, hn, honce⟩, hbody, fun h => absurd rfl h, hothers⟩
      · rintro ⟨⟨hnone, n, hn, honce⟩, hbody, -, hothers⟩
        exact ⟨_, taken_version_iff.2 ⟨hnone, n, hn, rfl⟩, ih.2 ⟨honce, hbody, hothers⟩⟩
    · by_cases hbody : key = "body"
      · subst hbody
        rw [Once.cons_iff_of_ne hversion, Once.cons_iff_self]
        constructor
        · rintro ⟨r, hr, halong⟩
          obtain ⟨hnone, v, hv, rfl⟩ := taken_body_iff.1 hr
          obtain ⟨hversion, honce, hothers⟩ := ih.1 halong
          exact ⟨hversion, ⟨hnone, v, hv, honce⟩, fun _ h => absurd rfl h, hothers⟩
        · rintro ⟨hversion, ⟨hnone, v, hv, honce⟩, -, hothers⟩
          exact ⟨_, taken_body_iff.2 ⟨hnone, v, hv, rfl⟩, ih.2 ⟨hversion, honce, hothers⟩⟩
      · rw [Once.cons_iff_of_ne hversion, Once.cons_iff_of_ne hbody]
        constructor
        · rintro ⟨r, hr, halong⟩
          obtain ⟨hskimmed, rfl⟩ := (taken_other_iff hversion hbody).1 hr
          obtain ⟨hv, hb, hothers⟩ := ih.1 halong
          exact ⟨hv, hb, fun _ _ => hskimmed, hothers⟩
        · rintro ⟨hv, hb, hskimmed, hothers⟩
          exact ⟨p, (taken_other_iff hversion hbody).2 ⟨hskimmed hversion hbody, rfl⟩,
            ih.2 ⟨hv, hb, hothers⟩⟩

theorem missing?_eq_none_iff :
    Json.missing? fields p = none ↔ p.version.isSome ∧ p.body.isSome := by
  obtain ⟨version, body⟩ := p
  cases version <;> cases body <;> simp [Json.missing?, fields]

/-- An array fills the two fields with its two items. -/
theorem filled_iff {texts : List (List UInt8)} : Filled Takes fields {} texts q ↔
    ∃ version body n v, texts = [version, body] ∧ VersionText version n ∧ BodyText body v ∧
      q = ⟨some n, some v⟩ := by
  constructor
  · intro h
    cases h with
    | done optional => exact absurd optional (by decide)
    | next hversion h =>
      cases h with
      | done optional => exact absurd optional (by decide)
      | next hbody h =>
        cases h with
        | done _ =>
          cases hversion with
          | body name _ => exact absurd name (by decide)
          | version _ hn =>
            cases hbody with
            | version name _ => exact absurd name (by decide)
            | body _ hv => exact ⟨_, _, _, _, rfl, hn, hv, rfl⟩
  · rintro ⟨version, body, n, v, rfl, hn, hv, rfl⟩
    exact .next (.version rfl hn) (.next (.body rfl hv) (.done rfl))

/-! ## Frames -/

variable {e : Envelope} {frame version body : List UInt8}

/-- The envelope of fields that have been read. -/
def ofPartial (p : Partial) : Envelope := ⟨p.version.getD 0, p.body.getD .null⟩

theorem readsOnly_read : ReadsOnly Envelope.read fun text e =>
    ∃ p, RecordText fields Takes {} text p ∧ ofPartial p = e :=
  (Json.readsOnly_readRecord readsOnly_field).map (f := ofPartial)

theorem readsAll_read : ReadsAll Envelope.read fun text e =>
    ∃ p, RecordText fields Takes {} text p ∧ ofPartial p = e :=
  (Json.readsAll_readRecord readsAll_field Takes.starts).map (f := ofPartial)

/-- An envelope is read from the frames that are written for it, and from no others. -/
theorem ofFrame_eq_ok_iff : ofFrame frame = .ok e ↔ e.Written frame := by
  rw [ofFrame, Json.ofText_eq_ok_iff readsOnly_read readsAll_read]
  constructor
  · rintro ⟨ws, text, ws', hws, hws', ⟨p, hp, rfl⟩, rfl⟩
    cases hp with
    | object cut values complete =>
      obtain ⟨version, body⟩ := p
      obtain ⟨hversion, hbody, hothers⟩ := along_iff.1 values
      obtain ⟨hsome, hsome'⟩ := missing?_eq_none_iff.1 complete
      cases hversion with
      | kept _ => cases hsome
      | filled only hn =>
        cases hbody with
        | kept _ => cases hsome'
        | filled only' hv => exact ⟨_, _, hn, hv, .object hws hws' cut only only' hothers⟩
    | array cut values =>
      obtain ⟨version, body, n, v, rfl, hn, hv, rfl⟩ := filled_iff.1 values
      exact ⟨version, body, hn, hv, .array hws hws' cut⟩
  · obtain ⟨n, v⟩ := e
    rintro ⟨version, body, hn, hv, hparts⟩
    cases hparts with
    | @object ws inside ws' members front back cut versionOnce bodyOnce others =>
      have halong : Along (Taken fields Takes) {} members ⟨some n, some v⟩ :=
        along_iff.2 ⟨.filled versionOnce hn, .filled bodyOnce hv, others⟩
      exact ⟨_, _, _, front, back,
        ⟨_, .object cut halong (missing?_eq_none_iff.2 ⟨rfl, rfl⟩), rfl⟩, rfl⟩
    | array front back cut =>
      have hfilled := filled_iff.2 ⟨version, body, n, v, rfl, hn, hv, rfl⟩
      exact ⟨_, _, _, front, back, ⟨_, .array cut hfilled, rfl⟩, rfl⟩

/-- The body of a frame may be exchanged for any other one. -/
theorem Parts.exists_split (h : Parts version body frame) :
    ∃ before after, frame = before ++ (body ++ after) ∧
      ∀ body', Parts version body' (before ++ (body' ++ after)) := by
  cases h with
  | @object ws inside ws' members front back cut versionOnce bodyOnce others =>
    obtain ⟨l, r, rfl, hl, -, hr⟩ := List.filter_eq_cons_iff.1 bodyOnce
    obtain ⟨before, text, after, rfl, here, hexchange⟩ := Entries.exists_split cut
    cases here with
    | @intro raw blanks blanks' _ key hblanks hblanks' _ =>
      refine ⟨ws ++ ascii '\x7b' :: (before ++ (Json.quoted raw ++ (blanks ++ ascii ':' :: blanks'))),
        after ++ ws', ?_, fun body' => ?_⟩
      · simp only [List.append_assoc, List.cons_append]
      · have hcut := hexchange (.intro key hblanks hblanks' body')
        have hversion : (l ++ ("body", body') :: r).filter (·.1 == "version") =
            [("version", version)] := by
          rw [← versionOnce, List.filter_append, List.filter_append]
          rfl
        have hbody : (l ++ ("body", body') :: r).filter (·.1 == "body") = [("body", body')] := by
          rw [List.filter_append, List.filter_eq_nil_iff.2 hl, List.filter_cons_of_pos rfl, hr]
          rfl
        have hothers : Others (l ++ ("body", body') :: r) := by
          intro m hm hne hne'
          rcases List.mem_append.1 hm with hm | hm
          · exact others m (List.mem_append_left _ hm) hne hne'
          · rcases List.mem_cons.1 hm with rfl | hm
            · exact absurd rfl hne'
            · exact others m (List.mem_append_right _ (List.mem_cons_of_mem _ hm)) hne hne'
        have hframe := Parts.object front back hcut hversion hbody hothers
        simpa only [List.append_assoc, List.cons_append] using hframe
  | @array ws inside ws' front back cut =>
    have hcut : Entries (ascii ']') (· = ·) true inside ([version] ++ body :: []) := cut
    obtain ⟨before, _, after, rfl, rfl, hexchange⟩ := hcut.exists_split
    refine ⟨ws ++ ascii '[' :: before, after ++ ws', ?_, fun body' => ?_⟩
    · simp only [List.append_assoc, List.cons_append]
    · have hframe := Parts.array front back (hexchange (Eq.refl body'))
      simpa only [List.append_assoc, List.cons_append] using hframe

end Envelope

/-! ## Decoding -/

open Envelope (BodyText Parts Written)

variable {α : Type} {ofBody : Json → Except Mismatch α} {frame : List UInt8}

theorem decodeWith_eq_ok_iff {m : α} : decodeWith ofBody frame = .ok m ↔
    ∃ body, Written ⟨protocolVersion, body⟩ frame ∧ ofBody body = .ok m := by
  constructor
  · intro h
    rw [decodeWith] at h
    split at h
    · cases h
    · next e he =>
      split at h
      · cases h
      · next hversion =>
        split at h
        · cases h
        · next m hm =>
          cases h
          obtain ⟨version, body⟩ := e
          obtain rfl : version = protocolVersion := not_not.1 hversion
          exact ⟨body, Envelope.ofFrame_eq_ok_iff.1 he, hm⟩
  · rintro ⟨body, hwritten, hm⟩
    simp only [decodeWith, Envelope.ofFrame_eq_ok_iff.2 hwritten, ne_eq, not_true_eq_false,
      if_false, hm]

theorem decodeWith_eq_unsupportedVersion_iff {found expected : Nat} :
    decodeWith ofBody frame = .error (.unsupportedVersion found expected) ↔
      found ≠ protocolVersion ∧ expected = protocolVersion ∧
        ∃ body, Written ⟨found, body⟩ frame := by
  constructor
  · intro h
    rw [decodeWith] at h
    split at h
    · cases h
    · next e he =>
      split at h
      · next hversion =>
        cases h
        exact ⟨hversion, rfl, e.body, Envelope.ofFrame_eq_ok_iff.1 he⟩
      · split at h <;> cases h
  · rintro ⟨hversion, rfl, body, hwritten⟩
    simp only [decodeWith, Envelope.ofFrame_eq_ok_iff.2 hwritten, hversion, ne_eq,
      not_false_eq_true, if_true]

/-- What a decoder makes of the versions of its frames, when it takes messages out of bodies by
`ofBody`. -/
structure Gated (ofBody : Json → Except Mismatch α)
    (decode : List UInt8 → Except ProtocolError α) : Prop where
  /-- A frame of another version is refused for its version, whatever its body. -/
  refuses : ∀ {version body frame}, Written ⟨version, body⟩ frame → version ≠ protocolVersion →
    decode frame = .error (.unsupportedVersion version protocolVersion)
  /-- No other frame is refused for a version. -/
  refusesOnly : ∀ {frame version expected},
    decode frame = .error (.unsupportedVersion version expected) →
      version ≠ protocolVersion ∧ expected = protocolVersion ∧
        ∃ body, Written ⟨version, body⟩ frame
  /-- A message is taken out of a frame of this version only, and out of nothing but its body. -/
  accepts : ∀ {frame m}, decode frame = .ok m ↔
    ∃ body, Written ⟨protocolVersion, body⟩ frame ∧ ofBody body = .ok m
  /-- A frame that is refused for its version is refused for it with any other body. -/
  blind : ∀ {frame version expected},
    decode frame = .error (.unsupportedVersion version expected) →
      ∃ before text after, frame = before ++ (text ++ after) ∧ (∃ body, BodyText text body) ∧
        ∀ {text' body'}, BodyText text' body' →
          decode (before ++ (text' ++ after)) = .error (.unsupportedVersion version expected)

/-- Every decoder that reads an envelope first is gated by its version. -/
theorem gated_decodeWith (ofBody : Json → Except Mismatch α) : Gated ofBody (decodeWith ofBody) where
  refuses hwritten hversion := decodeWith_eq_unsupportedVersion_iff.2 ⟨hversion, rfl, _, hwritten⟩
  refusesOnly h := decodeWith_eq_unsupportedVersion_iff.1 h
  accepts := decodeWith_eq_ok_iff
  blind {frame version expected} h := by
    obtain ⟨hversion, rfl, body, v, b, hv, hb, hparts⟩ := decodeWith_eq_unsupportedVersion_iff.1 h
    obtain ⟨before, after, rfl, hexchange⟩ := hparts.exists_split
    refine ⟨before, b, after, rfl, ⟨body, hb⟩, fun {text' body'} hbody' => ?_⟩
    exact decodeWith_eq_unsupportedVersion_iff.2
      ⟨hversion, rfl, body', v, text', hv, hbody', hexchange text'⟩

/-- The decoders of all messages are gated by the version. -/
theorem version_gate :
    Gated ConfigMessage.ofJson ConfigMessage.decode ∧ Gated StreamConfig.ofJson StreamConfig.decode ∧
      Gated (OutputEvent.ofJson .fewer) OutputEvent.decode :=
  ⟨gated_decodeWith _, gated_decodeWith _, gated_decodeWith _⟩

example : StreamConfig.decode (Text.utf8 "[2, \x7b\x7d]") = .error (.unsupportedVersion 2 1) := by
  decide +kernel

/-! ## Strings -/

/-- A frame of this version with a string in it that is no text, in a member that nobody asks
for. -/
def frameWithoutText : List UInt8 :=
  Text.utf8 "\x7b\"version\":1,\"body\":\x7b\"queries\":[]\x7d,\"note\":\"" ++
    0xFF :: Text.utf8 "\"\x7d"

/-- A frame of another version whose body is an escaped half of a pair. -/
def frameWithHalf : List UInt8 := Text.utf8 "\x7b\"version\":2,\"body\":\"\\ud800\"\x7d"

/-- What stands in strings is checked in bodies and not in members that nobody asks for: a frame
that is no text at all is accepted, and one of another version is refused for its body. -/
theorem strings_checked_in_bodies_only :
    (StreamConfig.decode frameWithoutText = .ok ⟨[]⟩ ∧ ∀ s, Text.utf8 s ≠ frameWithoutText) ∧
      StreamConfig.decode frameWithHalf = .error (.json .malformed) := by
  refine ⟨⟨by decide +kernel, fun s hs => ?_⟩, by decide +kernel⟩
  have hnone : Text.ofUtf8? frameWithoutText = none := by decide +kernel
  rw [← hs, Text.ofUtf8?_utf8] at hnone
  cases hnone

end ControlPlane
