import ControlPlane.Json.Decoding
import ControlPlane.Proofs.Json.Values

/-!
# Values of known shape and their parts

What a list or a record gives comes from the values that stand directly inside it, whichever of the
admitted spellings it has.

## Main statements

- `Json.asItems_map`: a list of what was written gives the items back.
- `Json.exists_of_asRecord₁`, `Json.exists_of_asRecord₂`: the fields of a record come from values
  directly inside.
-/

namespace ControlPlane.Json

variable {α β : Type} {s : Slot α} {t : Slot β}

/-- Items that are written so that each is accepted make a list that is accepted. -/
theorem asItems_map {item : Json → Except Mismatch α} {write : α → Json}
    (h : ∀ a, item (write a) = .ok a) (as : List α) : asItems item (as.map write) = .ok as := by
  induction as with
  | nil => rfl
  | cons a as ih => simp only [List.map_cons, asItems, h, ih]

/-! ## Records that were written -/

theorem Slot.fill_self {old : Option α} {v : Json} {a : α} (h : s.decode v = .ok a) :
    s.fill old s.key v = .ok (some a) := by
  rw [Slot.fill, if_pos rfl, h]

theorem Slot.fill_of_ne {old : Option α} {key : String} (v : Json) (h : key ≠ s.key) :
    s.fill old key v = .ok old := by
  rw [Slot.fill, if_neg h]

theorem fill₁_cons_self {old : Option α} {v : Json} {a : α} {rest : List (String × Json)}
    (h : s.decode v = .ok a) : fill₁ s old ((s.key, v) :: rest) = fill₁ s (some a) rest := by
  rw [fill₁, Slot.fill_self h]

theorem fill₁_cons_of_ne {old : Option α} {key : String} {v : Json} {rest : List (String × Json)}
    (h : key ≠ s.key) : fill₁ s old ((key, v) :: rest) = fill₁ s old rest := by
  rw [fill₁, Slot.fill_of_ne v h]

/-- A record of two fields is accepted with its second field in front, which is its key order. -/
theorem asRecord₂_members (wording : LengthWording) (name : String) {v w : Json} {a : α} {b : β}
    (ha : s.decode v = .ok a) (hb : t.decode w = .ok b) (hne : s.key ≠ t.key) :
    asRecord₂ wording name s t (.object [(t.key, w), (s.key, v)]) = .ok (a, b) := by
  simp only [asRecord₂, fill₂, Slot.fill_self ha, Slot.fill_self hb, Slot.fill_of_ne v hne,
    Slot.fill_of_ne w hne.symm]
  rfl

/-! ## Records that were read -/

/-- A slot keeps its value, or takes it from a member. -/
theorem Slot.fill_eq_ok {old new : Option α} {key : String} {v : Json}
    (h : s.fill old key v = .ok new) : new = old ∨ ∃ a, s.decode v = .ok a ∧ new = some a := by
  rw [Slot.fill] at h
  split at h
  · split at h
    · cases h
    · next a ha =>
      cases h
      exact .inr ⟨a, ha, rfl⟩
  · cases h
    exact .inl rfl

/-- A filled slot holds what one of `values` means. -/
def Slot.From (s : Slot α) (values : List Json) (a : Option α) : Prop :=
  ∀ x, a = some x → ∃ v ∈ values, s.decode v = .ok x

theorem Slot.From.fill {values : List Json} {old new : Option α} {key : String} {v : Json}
    (hold : s.From values old) (hv : v ∈ values) (h : s.fill old key v = .ok new) :
    s.From values new := by
  rcases Slot.fill_eq_ok h with rfl | ⟨a, ha, rfl⟩
  · exact hold
  · rintro x ⟨⟩
    exact ⟨v, hv, ha⟩

theorem Slot.eq_some_of_required {a : Option α} {x : α} (h : s.required a = .ok x) :
    a = some x := by
  cases a with
  | none => cases h
  | some y => exact congrArg some (Except.ok.inj h)

/-- The slot is filled from the members. -/
theorem Slot.From.fill₁ {values : List Json} {members : List (String × Json)} {old new : Option α}
    (hold : s.From values old) (hmembers : ∀ m ∈ members, m.2 ∈ values)
    (h : Json.fill₁ s old members = .ok new) : s.From values new := by
  induction members generalizing old with
  | nil =>
    cases h
    exact hold
  | cons m members ih =>
    obtain ⟨key, v⟩ := m
    obtain ⟨hv, hrest⟩ := List.forall_mem_cons.1 hmembers
    rw [Json.fill₁] at h
    split at h
    · cases h
    · next hfill => exact ih (hold.fill hv hfill) hrest h

/-- Both slots are filled from the members. -/
theorem Slot.From.fill₂ {values : List Json} {members : List (String × Json)} {a a' : Option α}
    {b b' : Option β} (ha : s.From values a) (hb : t.From values b)
    (hmembers : ∀ m ∈ members, m.2 ∈ values) (h : Json.fill₂ s t a b members = .ok (a', b')) :
    s.From values a' ∧ t.From values b' := by
  induction members generalizing a b with
  | nil =>
    cases h
    exact ⟨ha, hb⟩
  | cons m members ih =>
    obtain ⟨key, v⟩ := m
    obtain ⟨hv, hrest⟩ := List.forall_mem_cons.1 hmembers
    rw [Json.fill₂] at h
    split at h
    · cases h
    · next hfirst =>
      split at h
      · cases h
      · next hsecond => exact ih (ha.fill hv hfirst) (hb.fill hv hsecond) hrest h

theorem Slot.from_none (values : List Json) : s.From values none := by
  intro v hv
  cases hv

/-- The field of a record comes from a value directly inside. -/
theorem exists_of_asRecord₁ {wording : LengthWording} {name : String} {v : Json} {a : α}
    (h : asRecord₁ wording name s v = .ok a) : ∃ w ∈ v.children, s.decode w = .ok a := by
  cases v with
  | object members =>
    rw [asRecord₁] at h
    split at h
    · cases h
    · next hfill =>
      have hfrom : s.From (object members).children _ :=
        (Slot.from_none _).fill₁ (fun m hm => List.mem_map_of_mem hm) hfill
      exact hfrom a (Slot.eq_some_of_required h)
  | array items =>
    cases items with
    | nil => cases h
    | cons w rest =>
      rw [asRecord₁] at h
      split at h
      · cases h
      · next hw =>
        split at h
        · cases h
          exact ⟨w, List.mem_cons_self, hw⟩
        · cases h
  | null => cases h
  | bool b => cases h
  | number n => cases h
  | string s => cases h

/-- The fields of a record come from values directly inside. -/
theorem exists_of_asRecord₂ {wording : LengthWording} {name : String} {v : Json} {a : α} {b : β}
    (h : asRecord₂ wording name s t v = .ok (a, b)) :
    (∃ w ∈ v.children, s.decode w = .ok a) ∧ ∃ w ∈ v.children, t.decode w = .ok b := by
  cases v with
  | object members =>
    rw [asRecord₂] at h
    split at h
    · cases h
    · next hfill =>
      obtain ⟨hs, ht⟩ := (Slot.from_none (object members).children).fill₂ (Slot.from_none _)
        (fun m hm => List.mem_map_of_mem hm) hfill
      split at h
      · cases h
      · cases h
      · next ha hb =>
        cases h
        exact ⟨hs a (Slot.eq_some_of_required ha), ht b (Slot.eq_some_of_required hb)⟩
  | array items =>
    match items, h with
    | [w], h =>
      rw [asRecord₂] at h
      split at h <;> cases h
    | w :: u :: rest, h =>
      rw [asRecord₂] at h
      split at h
      · cases h
      · cases h
      · next hw hu =>
        split at h
        · cases h
          exact ⟨⟨w, List.mem_cons_self, hw⟩, u, List.mem_cons_of_mem _ List.mem_cons_self, hu⟩
        · cases h
  | null => cases h
  | bool b => cases h
  | number n => cases h
  | string s => cases h

end ControlPlane.Json
