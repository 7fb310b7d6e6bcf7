import ControlPlane.Json.Record
import ControlPlane.Proofs.Json.Values

/-!
# What reading a text can give

Whatever the text, a value that has been read nests no deeper than the reader goes, and its objects
have their keys in increasing order. The loops over items, members and fields keep what one step of
them keeps.

## Main statements

- `Json.forall_mem_of_readItems`, `Json.holds_of_readMembers`, `Json.holds_of_readRecord`: what one
  step keeps, the loop keeps.
- `Json.fits_of_readValue`: a value that has been read is in order and no deeper than the reader
  goes.
-/

namespace ControlPlane

/-- A step that comes out well has a first part that does. -/
theorem exists_of_bind_eq_ok {ε α β : Type} {result : Except ε α} {next : α → Except ε β} {b : β}
    (h : (result >>= next) = .ok b) : ∃ a, result = .ok a ∧ next a = .ok b := by
  cases result with
  | error e => cases h
  | ok a => exact ⟨a, rfl, h⟩

theorem exists_of_map_eq_ok {ε α β : Type} {result : Except ε α} {f : α → β} {b : β}
    (h : result.map f = .ok b) : ∃ a, result = .ok a ∧ f a = b := by
  cases result with
  | error e => cases h
  | ok a => exact ⟨a, rfl, Except.ok.inj h⟩

end ControlPlane

namespace ControlPlane.Json

variable {input rest : List UInt8} {levels : Nat}

/-! ## Loops of the reader -/

/-- What holds of every item that can be read holds of all items of an array. -/
theorem forall_mem_of_readItems {α : Type} {item : Reader α} {p : α → Prop}
    (hitem : ∀ {input v rest}, item input = .ok (v, rest) → p v) {fuel : Nat} {first : Bool}
    {vs : List α} (h : readItems item fuel first input = .ok (vs, rest)) : ∀ v ∈ vs, p v := by
  induction fuel generalizing first input vs with
  | zero => cases h
  | succ fuel ih =>
    rw [readItems] at h
    split at h
    · cases h
    · cases h
      intro v hv
      cases hv
    · split at h
      · cases h
      · next hv =>
        split at h
        · cases h
        · next hvs =>
          cases h
          exact List.forall_mem_cons.2 ⟨hitem hv, ih hvs⟩

/-- What reading one member keeps, reading all members keeps. -/
theorem holds_of_readMembers {σ κ : Type} {key : Reader κ} {member : σ → κ → Reader σ}
    {p : σ → Prop}
    (hmember : ∀ {s k input s' rest}, p s → member s k input = .ok (s', rest) → p s')
    {fuel : Nat} {first : Bool} {s s' : σ} (hs : p s)
    (h : readMembers key member fuel first s input = .ok (s', rest)) : p s' := by
  induction fuel generalizing first s input with
  | zero => cases h
  | succ fuel ih =>
    rw [readMembers] at h
    split at h
    · cases h
    · cases h
      exact hs
    · cases h
    · split at h
      · split at h
        · cases h
        · split at h
          · cases h
          · next hread => exact ih (hmember hs hread) h
      · cases h

section Record

variable {σ : Type} {p : σ → Prop} {fields : List (Field σ)}

/-- What reading one field keeps, reading one member of a record keeps. -/
theorem holds_of_readMember
    (hfields : ∀ f ∈ fields, ∀ {s input s' rest}, p s → f.read s input = .ok (s', rest) → p s')
    {s s' : σ} {key : String} (hs : p s)
    (h : readMember fields s key input = .ok (s', rest)) : p s' := by
  rw [readMember] at h
  split at h
  · obtain ⟨_, -, hskip⟩ := exists_of_bind_eq_ok h
    obtain ⟨_, -, hstate⟩ := exists_of_bind_eq_ok hskip
    cases hstate
    exact hs
  · next f hf =>
    split at h
    · cases h
    · obtain ⟨_, -, hread⟩ := exists_of_bind_eq_ok h
      exact hfields f (List.mem_of_find?_eq_some hf) hs hread

/-- What reading one field keeps, reading the fields in their order keeps. -/
theorem holds_of_readPositional {expected : String}
    (hfields : ∀ f ∈ fields, ∀ {s input s' rest}, p s → f.read s input = .ok (s', rest) → p s')
    {count : Nat} {s s' : σ} (hs : p s)
    (h : readPositional expected fields count s input = .ok (s', rest)) : p s' := by
  induction fields generalizing count s input with
  | nil =>
    obtain ⟨_, -, hstate⟩ := exists_of_map_eq_ok h
    cases hstate
    exact hs
  | cons f fields ih =>
    obtain ⟨hf, hrest⟩ := List.forall_mem_cons.1 hfields
    rw [readPositional] at h
    split at h
    · cases h
    · split at h
      · cases h
        exact hs
      · cases h
    · split at h
      · cases h
      · next hread => exact ih hrest (hf hs hread) h

/-- What reading one field keeps, reading a record of either form keeps. -/
theorem holds_of_readRecord {name : String} {empty : σ}
    (hfields : ∀ f ∈ fields, ∀ {s input s' rest}, p s → f.read s input = .ok (s', rest) → p s')
    (hempty : p empty) {s : σ} (h : readRecord name fields empty input = .ok (s, rest)) : p s := by
  obtain ⟨start, -, h⟩ := exists_of_bind_eq_ok h
  cases start with
  | scalar v input => cases h
  | array input => exact holds_of_readPositional hfields hempty h
  | object input =>
    obtain ⟨⟨state, more⟩, hmembers, hstate⟩ := exists_of_bind_eq_ok h
    dsimp only at hstate
    split at hstate
    · cases hstate
    · cases hstate
      exact holds_of_readMembers (holds_of_readMember hfields) hempty hmembers

end Record

/-! ## Arrays and objects -/

/-- One member of an object, read into the members before it. -/
def readInto (levels : Nat) (members : List (String × Json)) (key : String) :
    Reader (List (String × Json)) := fun input => do
  let input ← readColon input
  let (v, rest) ← readValue levels input
  return (putMember members key v, rest)

theorem readValue_of_scalar {v : Json} (h : readStart input = .ok (.scalar v rest)) :
    readValue levels input = .ok (v, rest) := by
  cases levels <;> simp only [readValue, h]

theorem readValue_of_array (h : readStart input = .ok (.array rest)) :
    readValue (levels + 1) input =
      (readItems (readValue levels) (rest.length + 1) true rest).map fun (items, rest) =>
        (.array items, rest) := by
  simp only [readValue, h]

theorem readValue_of_object (h : readStart input = .ok (.object rest)) :
    readValue (levels + 1) input =
      (readMembers scanString (readInto levels) (rest.length + 1) true [] rest).map
        fun (members, rest) => (.object members, rest) := by
  simp only [readValue, h]
  rfl

theorem depth_of_map {α : Type} {x : Except Fault α} {start : α → Start} {v : Json}
    (hstart : ∀ a, start a = .scalar v rest → depth v = 0)
    (h : x.map start = .ok (.scalar v rest)) : depth v = 0 := by
  obtain ⟨a, -, ha⟩ := exists_of_map_eq_ok h
  exact hstart a ha

/-- Scalars have no depth. -/
theorem depth_of_readStart {v : Json} (h : readStart input = .ok (.scalar v rest)) :
    depth v = 0 := by
  rw [readStart] at h
  split at h
  · cases h
  · split_ifs at h with hnull htrue hfalse hstring harray hobject hminus hdigit
    · exact depth_of_map (fun _ hv => by cases hv; rfl) h
    · exact depth_of_map (fun _ hv => by cases hv; rfl) h
    · exact depth_of_map (fun _ hv => by cases hv; rfl) h
    · exact depth_of_map (fun _ hv => by cases hv; rfl) h
    · cases h
    · cases h
    · exact depth_of_map (fun _ hv => by cases hv; rfl) h
    · exact depth_of_map (fun _ hv => by cases hv; rfl) h

/-- A value without depth is in order. -/
theorem ordered_of_depth {v : Json} (h : depth v = 0) : v.Ordered := by
  refine .intro ?_ fun w hw => absurd (depth_lt_of_mem_children hw) (h ▸ Nat.not_lt_zero _)
  cases v with
  | object members => cases h
  | _ => trivial

/-- A scalar fits whatever the reader's limit. -/
theorem fits_of_readStart {v : Json} (h : readStart input = .ok (.scalar v rest)) :
    depth v ≤ levels ∧ v.Ordered :=
  have hdepth := depth_of_readStart h
  ⟨hdepth ▸ Nat.zero_le levels, ordered_of_depth hdepth⟩

/-- Members in key order whose values are in order and not too deep. -/
structure MembersFit (levels : Nat) (members : List (String × Json)) : Prop where
  keys : KeysIncrease members
  values : ∀ m ∈ members, depth m.2 ≤ levels ∧ m.2.Ordered

/-- A value that has been read is in order and no deeper than the reader goes. -/
theorem fits_of_readValue {v : Json} (h : readValue levels input = .ok (v, rest)) :
    depth v ≤ levels ∧ v.Ordered := by
  induction levels generalizing v input rest with
  | zero =>
    cases hstart : readStart input with
    | error e => simp only [readValue, hstart, reduceCtorEq] at h
    | ok start =>
      cases start with
      | scalar w more =>
        cases (readValue_of_scalar hstart).symm.trans h
        exact fits_of_readStart hstart
      | array more => simp only [readValue, hstart, reduceCtorEq] at h
      | object more => simp only [readValue, hstart, reduceCtorEq] at h
  | succ levels ih =>
    cases hstart : readStart input with
    | error e => simp only [readValue, hstart, reduceCtorEq] at h
    | ok start =>
      cases start with
      | scalar w more =>
        cases (readValue_of_scalar hstart).symm.trans h
        exact fits_of_readStart hstart
      | array more =>
        rw [readValue_of_array hstart] at h
        obtain ⟨⟨items, after⟩, hitems, hv⟩ := exists_of_map_eq_ok h
        cases hv
        have hfit := forall_mem_of_readItems ih hitems
        exact ⟨depth_le_succ_iff.2 fun w hw => (hfit w hw).1,
          .intro trivial fun w hw => (hfit w hw).2⟩
      | object more =>
        rw [readValue_of_object hstart] at h
        obtain ⟨⟨members, after⟩, hmembers, hv⟩ := exists_of_map_eq_ok h
        cases hv
        have hfit : MembersFit levels members :=
          holds_of_readMembers (fun hbefore hread => ?_) ⟨.nil, fun m hm => by cases hm⟩ hmembers
        · exact ⟨depth_le_succ_iff.2 (List.forall_mem_map.2 fun m hm => (hfit.values m hm).1),
            .intro hfit.keys (List.forall_mem_map.2 fun m hm => (hfit.values m hm).2)⟩
        · obtain ⟨_, -, hread⟩ := exists_of_bind_eq_ok hread
          obtain ⟨⟨w, _⟩, hw, hput⟩ := exists_of_bind_eq_ok hread
          cases hput
          refine ⟨hbefore.keys.putMember .., fun m hm => ?_⟩
          rcases mem_putMember hm with rfl | hm
          · exact ih hw
          · exact hbefore.values m hm

end ControlPlane.Json
