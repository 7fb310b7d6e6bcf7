import ControlPlane.Proofs.Json.Records
import Mathlib.Data.List.Nodup

/-!
# Reading fields that do not touch each other

The texts of strings and lists, and of records each of whose fields fills a part of the state of its
own. Whether the members of an object fill such a state can be said field by field: where in the
object a field stands, and what stands between the fields, makes no difference.

## Main definitions

- `Json.StringText`, `Json.ListText`: the texts of strings and lists.
- `Json.FieldPart`: a field with the part of the state that it fills.
- `Json.Independent`: fields that do not touch each other's parts.

## Main statements

- `Json.readsOnly_readText`, `Json.readsAll_readText`: strings.
- `Json.readsOnly_readList`, `Json.readsAll_readList`: lists.
- `Json.along_iff_once`: members fill each field by itself.
-/

namespace ControlPlane.Json

variable {α : Type} {input rest ws text inside : List UInt8}

/-! ## Strings and lists -/

/-- The text of a string. -/
inductive StringText : List UInt8 → String → Prop
  | intro {raw : List UInt8} {s : String} (spelled : SpellsText raw s) : StringText (quoted raw) s

/-- The text of a list whose items have the texts that `item` says. -/
inductive ListText (item : List UInt8 → α → Prop) : List UInt8 → List α → Prop
  | intro {inside : List UInt8} {texts : List (List UInt8)} {as : List α}
      (cut : ItemTexts inside texts) (values : List.Forall₂ item texts as) :
      ListText item (ascii '[' :: inside) as

theorem StringText.starts {s : String} (h : StringText text s) : Starts text := by
  cases h with
  | intro _ => exact ⟨_, _, rfl, by decide, by decide⟩

theorem ListText.starts {item : List UInt8 → α → Prop} {as : List α} (h : ListText item text as) :
    Starts text := by
  cases h with
  | intro _ _ => exact ⟨_, _, rfl, by decide, by decide⟩

theorem readsOnly_readText : ReadsOnly readText StringText := by
  intro input s rest h
  obtain ⟨start, hstart, h⟩ := exists_of_bind_eq_ok h
  obtain ⟨ws, text, hws, htext, rfl⟩ := exists_of_readStart hstart
  cases htext with
  | array => cases h
  | object => cases h
  | @scalar text more v here =>
    cases here with
    | string spelled =>
      cases h
      exact ⟨ws, _, hws, .intro spelled, rfl⟩
    | _ => cases h

theorem readsAll_readText : ReadsAll readText StringText := by
  intro ws text s rest hws h hrest
  cases h with
  | intro spelled =>
    simp only [readText, readStart_scalar hws (.string spelled) hrest, bind, Except.bind]

theorem readsOnly_readList {item : Reader α} {texts : List UInt8 → α → Prop}
    (hitem : ReadsOnly item texts) : ReadsOnly (readList item) (ListText texts) := by
  intro input as rest h
  obtain ⟨start, hstart, h⟩ := exists_of_bind_eq_ok h
  obtain ⟨ws, text, hws, htext, rfl⟩ := exists_of_readStart hstart
  cases htext with
  | scalar => cases h
  | object => cases h
  | array =>
    obtain ⟨inside, raws, hcut, hvalues, rfl⟩ := exists_of_readItems hitem h
    exact ⟨ws, _, hws, .intro hcut hvalues, rfl⟩

theorem readsAll_readList {item : Reader α} {texts : List UInt8 → α → Prop}
    (hitem : ReadsAll item texts) (hstarts : ∀ {text a}, texts text a → Starts text) :
    ReadsAll (readList item) (ListText texts) := by
  intro ws text as rest hws h hrest
  cases h with
  | intro cut values =>
    have hfuel := cut.length_le
    simp only [List.cons_append, readList, readStart_array hws, bind, Except.bind]
    exact readItems_entries hitem hstarts cut values (by simp only [List.length_append]; omega)

/-! ## Fields that are parts of a state -/

variable {σ : Type}

/-- A field that fills one part of a state, with the texts that it is read from. -/
structure FieldPart (σ : Type) where
  {α : Type}
  key : String
  optional : Bool
  reader : Reader α
  texts : List UInt8 → α → Prop
  get : σ → Option α
  put : σ → α → σ
  get_put : ∀ s a, get (put s a) = some a
  readsOnly : ReadsOnly reader texts
  readsAll : ReadsAll reader texts
  starts : ∀ {text a}, texts text a → Starts text

/-- The field as a record has it. -/
def FieldPart.field (p : FieldPart σ) : Field σ where
  key := p.key
  optional := p.optional
  filled := fun s => (p.get s).isSome
  read := fun s input => (p.reader input).map fun (a, rest) => (p.put s a, rest)

/-- Fields that do not touch each other's parts, and that make up the whole state. -/
structure Independent (parts : List (FieldPart σ)) : Prop where
  keys : (parts.map (·.key)).Nodup
  get_put_of_ne : ∀ p ∈ parts, ∀ q ∈ parts, p.key ≠ q.key → ∀ s a, q.get (p.put s a) = q.get s
  ext : ∀ {s s' : σ}, (∀ p ∈ parts, p.get s = p.get s') → s = s'

/-- What the text of a field makes of a state. -/
inductive Puts (parts : List (FieldPart σ)) (key : String) (s : σ) (text : List UInt8) : σ → Prop
  | intro {p : FieldPart σ} {a : p.α} (known : p ∈ parts) (name : p.key = key)
      (here : p.texts text a) : Puts parts key s text (p.put s a)

/-- Members that are no field of the record are passed over. -/
def Others (parts : List (FieldPart σ)) (members : List (String × List UInt8)) : Prop :=
  ∀ m ∈ members, (∀ p ∈ parts, p.key ≠ m.1) → Skimmed m.2

/-- The member `key` stands once among the members, and its text is one of `texts` for `a`. -/
def HasMember {α : Type} (members : List (String × List UInt8)) (key : String)
    (texts : List UInt8 → α → Prop) (a : α) : Prop :=
  ∃ text, members.filter (·.1 == key) = [(key, text)] ∧ texts text a

theorem Once.some_iff {α : Type} {key : String} {texts : List UInt8 → α → Prop}
    {members : List (String × List UInt8)} {a : α} :
    Once key texts members none (some a) ↔ HasMember members key texts a := by
  constructor
  · intro h
    cases h with
    | filled only here => exact ⟨_, only, here⟩
  · rintro ⟨text, only, here⟩
    exact .filled only here

theorem Once.none_iff {α : Type} {key : String} {texts : List UInt8 → α → Prop}
    {members : List (String × List UInt8)} :
    Once key texts members none none ↔ members.filter (·.1 == key) = [] := by
  constructor
  · intro h
    cases h with
    | kept absent => exact absent
  · exact .kept

theorem Puts.starts {parts : List (FieldPart σ)} {key : String} {s s' : σ}
    (h : Puts parts key s text s') : Starts text := by
  cases h with
  | @intro p a _ _ here => exact p.starts here

namespace Independent

variable {parts : List (FieldPart σ)} {p q : FieldPart σ} {s s' : σ} {m : String × List UInt8}
  {members : List (String × List UInt8)}

theorem eq_of_key (h : Independent parts) (hp : p ∈ parts) (hq : q ∈ parts) (hkey : p.key = q.key) :
    p = q :=
  List.inj_on_of_nodup_map h.keys hp hq hkey

theorem puts_iff (h : Independent parts) (hp : p ∈ parts) :
    Puts parts p.key s text s' ↔ ∃ a, p.texts text a ∧ s' = p.put s a := by
  constructor
  · rintro ⟨hq, hkey, here⟩
    obtain rfl := h.eq_of_key hq hp hkey
    exact ⟨_, here, rfl⟩
  · rintro ⟨a, here, rfl⟩
    exact .intro hp rfl here

theorem find?_field (h : Independent parts) (hp : p ∈ parts) :
    (parts.map FieldPart.field).find? (·.key == p.key) = some p.field := by
  have hsome : ((parts.map FieldPart.field).find? (·.key == p.key)).isSome :=
    List.find?_isSome.2 ⟨p.field, List.mem_map_of_mem hp, beq_self_eq_true _⟩
  obtain ⟨f, hf⟩ := Option.isSome_iff_exists.1 hsome
  obtain ⟨q, hq, rfl⟩ := List.mem_map.1 (List.mem_of_find?_eq_some hf)
  obtain rfl : q = p := h.eq_of_key hq hp (key_of_find? hf)
  exact hf

theorem taken_iff (h : Independent parts) (hp : p ∈ parts) :
    Taken (parts.map FieldPart.field) (Puts parts) s (p.key, text) s' ↔
      p.get s = none ∧ ∃ a, p.texts text a ∧ s' = p.put s a := by
  have hfind := h.find?_field hp
  constructor
  · intro htaken
    cases htaken with
    | field known missing here =>
      obtain rfl := Option.some.inj (hfind.symm.trans known)
      exact ⟨Option.isNone_iff_eq_none.1 (Option.isSome_eq_false_iff.1 missing),
        (h.puts_iff hp).1 here⟩
    | other unknown _ => cases hfind.symm.trans unknown
  · rintro ⟨hnone, hputs⟩
    exact .field hfind (congrArg Option.isSome hnone) ((h.puts_iff hp).2 hputs)

theorem taken_other_iff (hm : ∀ p ∈ parts, p.key ≠ m.1) :
    Taken (parts.map FieldPart.field) (Puts parts) s m s' ↔ Skimmed m.2 ∧ s' = s := by
  have hunknown : (parts.map FieldPart.field).find? (·.key == m.1) = none := by
    rw [List.find?_eq_none]
    intro f hf
    obtain ⟨p, hp, rfl⟩ := List.mem_map.1 hf
    rw [beq_iff_eq]
    exact hm p hp
  obtain ⟨key, text⟩ := m
  constructor
  · intro h
    cases h with
    | field known _ _ => cases hunknown.symm.trans known
    | other _ skimmed => exact ⟨skimmed, rfl⟩
  · rintro ⟨hskimmed, rfl⟩
    exact .other hunknown hskimmed

/-- Members fill each field by itself, wherever it stands among them. -/
theorem along_iff_once (h : Independent parts) :
    Along (Taken (parts.map FieldPart.field) (Puts parts)) s members s' ↔
      (∀ p ∈ parts, Once p.key p.texts members (p.get s) (p.get s')) ∧ Others parts members := by
  induction members generalizing s with
  | nil =>
    simp only [Once.nil_iff]
    constructor
    · rintro ⟨⟩
      exact ⟨fun _ _ => rfl, fun m hm => absurd hm List.not_mem_nil⟩
    · rintro ⟨hget, -⟩
      obtain rfl := h.ext hget
      exact .nil
  | cons m members ih =>
    obtain ⟨key, text⟩ := m
    rw [Along.cons_iff, Others, List.forall_mem_cons]
    by_cases hknown : ∃ p ∈ parts, p.key = key
    · obtain ⟨p, hp, rfl⟩ := hknown
      constructor
      · rintro ⟨r, hr, halong⟩
        obtain ⟨hnone, a, ha, rfl⟩ := (h.taken_iff hp).1 hr
        obtain ⟨honce, hothers⟩ := ih.1 halong
        -- The member fills `p`, and no other field sees it.
        refine ⟨fun q hq => ?_, fun hno => absurd rfl (hno p hp), hothers⟩
        by_cases hkey : p.key = q.key
        · obtain rfl := h.eq_of_key hp hq hkey
          exact Once.cons_iff_self.2 ⟨hnone, a, ha, p.get_put s a ▸ honce p hp⟩
        · exact (Once.cons_iff_of_ne hkey).2 (h.get_put_of_ne p hp q hq hkey s a ▸ honce q hq)
      · rintro ⟨honce, -, hothers⟩
        obtain ⟨hnone, a, ha, hrest⟩ := Once.cons_iff_self.1 (honce p hp)
        refine ⟨p.put s a, (h.taken_iff hp).2 ⟨hnone, a, ha, rfl⟩, ih.2 ⟨fun q hq => ?_, hothers⟩⟩
        by_cases hkey : p.key = q.key
        · obtain rfl := h.eq_of_key hp hq hkey
          exact (p.get_put s a).symm ▸ hrest
        · rw [h.get_put_of_ne p hp q hq hkey s a]
          exact (Once.cons_iff_of_ne hkey).1 (honce q hq)
    · have hunknown : ∀ p ∈ parts, p.key ≠ key := fun p hp hkey => hknown ⟨p, hp, hkey⟩
      constructor
      · rintro ⟨r, hr, halong⟩
        obtain ⟨hskimmed, rfl⟩ := (taken_other_iff hunknown).1 hr
        obtain ⟨honce, hothers⟩ := ih.1 halong
        exact ⟨fun q hq => (Once.cons_iff_of_ne (hunknown q hq).symm).2 (honce q hq),
          fun _ => hskimmed, hothers⟩
      · rintro ⟨honce, hskimmed, hothers⟩
        exact ⟨s, (taken_other_iff hunknown).2 ⟨hskimmed hunknown, rfl⟩,
          ih.2 ⟨fun q hq => (Once.cons_iff_of_ne (hunknown q hq).symm).1 (honce q hq), hothers⟩⟩

/-- The items of an array are read for the fields in their order. -/
theorem filled_cons_iff (h : Independent parts) (hp : p ∈ parts) {fields : List (Field σ)}
    {texts : List (List UInt8)} : Filled (Puts parts) (p.field :: fields) s texts s' ↔
      (texts = [] ∧ s' = s ∧ (p.field :: fields).all (·.optional)) ∨
        ∃ text more a, texts = text :: more ∧ p.texts text a ∧
          Filled (Puts parts) fields (p.put s a) more s' := by
  constructor
  · intro hfilled
    cases hfilled with
    | done optional => exact .inl ⟨rfl, rfl, optional⟩
    | next here more =>
      obtain ⟨a, ha, rfl⟩ := (h.puts_iff hp).1 here
      exact .inr ⟨_, _, a, rfl, ha, more⟩
  · rintro (⟨rfl, rfl, optional⟩ | ⟨text, more, a, rfl, ha, hmore⟩)
    · exact .done optional
    · exact .next ((h.puts_iff hp).2 ⟨a, ha, rfl⟩) hmore

theorem filled_nil_iff {texts : List (List UInt8)} :
    Filled (Puts parts) [] s texts s' ↔ texts = [] ∧ s' = s := by
  constructor
  · intro h
    cases h with
    | done _ => exact ⟨rfl, rfl⟩
  · rintro ⟨rfl, rfl⟩
    exact .done rfl

end Independent

/-! ## Records of such fields -/

variable {parts : List (FieldPart σ)} {s : σ}

theorem missing?_eq_none_iff_parts : missing? (parts.map FieldPart.field) s = none ↔
    ∀ p ∈ parts, p.optional = false → (p.get s).isSome := by
  simp only [missing?, Option.map_eq_none_iff, List.find?_eq_none, List.forall_mem_map]
  refine forall₂_congr fun p _ => ?_
  simp only [FieldPart.field, Bool.and_eq_true, Bool.not_eq_true', not_and, Bool.not_eq_false]

variable {name : String}

theorem readsOnly_record :
    ReadsOnly (readRecord name (parts.map FieldPart.field) s)
      (RecordText (parts.map FieldPart.field) (Puts parts) s) := by
  refine readsOnly_readRecord (List.forall_mem_map.2 fun p hp s => ?_)
  intro input s' rest hread
  obtain ⟨ws, text, hws, ⟨a, ha, rfl⟩, hinput⟩ := p.readsOnly.map (f := p.put s) hread
  exact ⟨ws, text, hws, .intro hp rfl ha, hinput⟩

theorem readsAll_record (h : Independent parts) :
    ReadsAll (readRecord name (parts.map FieldPart.field) s)
      (RecordText (parts.map FieldPart.field) (Puts parts) s) := by
  refine readsAll_readRecord (List.forall_mem_map.2 fun p hp s => ?_) Puts.starts
  intro ws text s' rest hws hputs hrest
  obtain ⟨a, ha, rfl⟩ := (h.puts_iff hp).1 hputs
  exact p.readsAll.map (f := p.put s) hws ⟨a, ha, rfl⟩ hrest

end ControlPlane.Json
