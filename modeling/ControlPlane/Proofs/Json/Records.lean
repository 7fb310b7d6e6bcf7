import ControlPlane.Json.Record
import ControlPlane.Proofs.Json.Skipping

/-!
# Reading records of any text

A record is written as an object, in which each field that must be there stands once and may stand
anywhere, or as an array of its fields in their order. Members with other keys are passed over
wherever they stand. What the reader of a record reads is such a text, if the reader of each field
reads the texts of that field; and it reads all of them.

## Main definitions

- `Json.RecordText`: the texts of a record, from what each field takes.
- `Json.Once`: what the members make of one field.

## Main statements

- `Json.readsOnly_readRecord`, `Json.readsAll_readRecord`: the two directions.
-/

namespace ControlPlane.Json

variable {σ : Type} {fields : List (Field σ)} {takes : String → σ → List UInt8 → σ → Prop}
  {input rest inside : List UInt8} {s s' : σ}

/-- What a member makes of a record that is being filled, when the text of a field makes what
`takes` says: a field that is missing is filled, and any other member changes nothing. -/
inductive Taken (fields : List (Field σ)) (takes : String → σ → List UInt8 → σ → Prop) :
    σ → String × List UInt8 → σ → Prop
  | field {f : Field σ} {key : String} {text : List UInt8} {s s' : σ}
      (known : fields.find? (·.key == key) = some f) (missing : f.filled s = false)
      (here : takes key s text s') : Taken fields takes s (key, text) s'
  | other {key : String} {text : List UInt8} {s : σ}
      (unknown : fields.find? (·.key == key) = none) (skimmed : Skimmed text) :
      Taken fields takes s (key, text) s

/-- The items of an array are the fields in their order. Only fields that may be missing are left
out at the end. -/
inductive Filled (takes : String → σ → List UInt8 → σ → Prop) :
    List (Field σ) → σ → List (List UInt8) → σ → Prop
  | done {fields : List (Field σ)} {s : σ} (optional : fields.all (·.optional)) :
      Filled takes fields s [] s
  | next {f : Field σ} {fields : List (Field σ)} {text : List UInt8} {texts : List (List UInt8)}
      {s s' s'' : σ} (here : takes f.key s text s') (more : Filled takes fields s' texts s'') :
      Filled takes (f :: fields) s (text :: texts) s''

/-- The text of a record that is filled from `empty`. -/
inductive RecordText (fields : List (Field σ)) (takes : String → σ → List UInt8 → σ → Prop)
    (empty : σ) : List UInt8 → σ → Prop
  | object {inside : List UInt8} {texts : List (String × List UInt8)} {s : σ}
      (cut : MemberTexts SpellsText inside texts) (values : Along (Taken fields takes) empty texts s)
      (complete : missing? fields s = none) :
      RecordText fields takes empty (ascii '\x7b' :: inside) s
  | array {inside : List UInt8} {texts : List (List UInt8)} {s : σ} (cut : ItemTexts inside texts)
      (values : Filled takes fields empty texts s) :
      RecordText fields takes empty (ascii '[' :: inside) s

theorem RecordText.starts {empty : σ} {text : List UInt8} (h : RecordText fields takes empty text s) :
    Starts text := by
  cases h with
  | object _ _ _ => exact ⟨_, _, rfl, by decide, by decide⟩
  | array _ _ => exact ⟨_, _, rfl, by decide, by decide⟩

/-! ## One field among the members -/

/-- How a field gets from one state to another by a list of members: its key does not occur, or it
occurs once and the field, which was missing, takes the text of its value. -/
inductive Once {α : Type} (key : String) (texts : List UInt8 → α → Prop)
    (members : List (String × List UInt8)) : Option α → Option α → Prop
  | kept {o : Option α} (absent : members.filter (·.1 == key) = []) : Once key texts members o o
  | filled {text : List UInt8} {a : α} (only : members.filter (·.1 == key) = [(key, text)])
      (here : texts text a) : Once key texts members none (some a)

namespace Once

variable {α : Type} {key : String} {texts : List UInt8 → α → Prop}
  {members : List (String × List UInt8)} {text : List UInt8} {o o' : Option α}

theorem nil_iff : Once key texts [] o o' ↔ o = o' := by
  constructor
  · intro h
    cases h with
    | kept _ => rfl
    | filled only _ => cases only
  · rintro rfl
    exact .kept rfl

theorem cons_iff_of_ne {k : String} (h : k ≠ key) :
    Once key texts ((k, text) :: members) o o' ↔ Once key texts members o o' := by
  have hfilter : ((k, text) :: members).filter (·.1 == key) = members.filter (·.1 == key) :=
    List.filter_cons_of_neg (by rw [beq_iff_eq]; exact h)
  constructor
  · rintro (absent | ⟨only, here⟩)
    · exact .kept (hfilter ▸ absent)
    · exact .filled (hfilter ▸ only) here
  · rintro (absent | ⟨only, here⟩)
    · exact .kept (hfilter.trans absent)
    · exact .filled (hfilter.trans only) here

theorem cons_iff_self : Once key texts ((key, text) :: members) o o' ↔
    o = none ∧ ∃ a, texts text a ∧ Once key texts members (some a) o' := by
  have hfilter : ((key, text) :: members).filter (·.1 == key) =
      (key, text) :: members.filter (·.1 == key) :=
    List.filter_cons_of_pos (by rw [beq_iff_eq])
  constructor
  · rintro (absent | ⟨only, here⟩)
    · cases hfilter.symm.trans absent
    · obtain ⟨htext, hmore⟩ := List.cons_eq_cons.1 (hfilter.symm.trans only)
      cases htext
      exact ⟨rfl, _, here, .kept hmore⟩
  · rintro ⟨rfl, a, here, hmore⟩
    cases hmore with
    | kept absent => exact .filled (hfilter.trans (by rw [absent])) here

end Once

/-! ## Members -/

theorem key_of_find? {f : Field σ} {key : String} (h : fields.find? (·.key == key) = some f) :
    f.key = key := by
  have hkey := List.find?_some h
  exact beq_iff_eq.1 hkey

theorem membersOnly_readMember
    (hfields : ∀ f ∈ fields, ∀ s, ReadsOnly (f.read s) (takes f.key s)) :
    MembersOnly (readMember fields) (Taken fields takes) := by
  intro s key input s' rest h
  rw [readMember] at h
  split at h
  · next hunknown =>
    obtain ⟨more, hcolon, h⟩ := exists_of_bind_eq_ok h
    obtain ⟨⟨_, after⟩, hskip, h⟩ := exists_of_bind_eq_ok h
    cases h
    obtain ⟨ws, hws, rfl⟩ := exists_of_readColon hcolon
    obtain ⟨ws', text, hws', htext, rfl⟩ := readsOnly_skipValue _ hskip
    exact ⟨ws, ws', text, hws, hws', .other hunknown htext, rfl⟩
  · next f hknown =>
    split at h
    · cases h
    · next hmissing =>
      obtain ⟨more, hcolon, hread⟩ := exists_of_bind_eq_ok h
      obtain ⟨ws, hws, rfl⟩ := exists_of_readColon hcolon
      obtain ⟨ws', text, hws', htext, rfl⟩ :=
        hfields f (List.mem_of_find?_eq_some hknown) s hread
      obtain rfl := key_of_find? hknown
      exact ⟨ws, ws', text, hws, hws', .field hknown (Bool.eq_false_iff.2 hmissing) htext, rfl⟩

theorem membersAll_readMember
    (hfields : ∀ f ∈ fields, ∀ s, ReadsAll (f.read s) (takes f.key s)) :
    MembersAll (readMember fields) (Taken fields takes) := by
  intro ws ws' s key text s' rest hws hws' h hrest
  cases h with
  | @field f _ _ _ _ hknown hmissing here =>
    obtain rfl := key_of_find? hknown
    have hread := hfields f (List.mem_of_find?_eq_some hknown) s hws' here hrest
    simp only [readMember, hknown, hmissing, Bool.false_eq_true, if_false, readColon_append hws,
      bind, Except.bind]
    exact hread
  | other hunknown hskimmed =>
    have hlength : text.length ≤ (ws' ++ (text ++ rest)).length := by
      simp only [List.length_append]
      omega
    have hskip : skipValue (ws' ++ (text ++ rest)).length (ws' ++ (text ++ rest)) = .ok ((), rest) :=
      readsAll_skipValue _ hws' ⟨hskimmed, hlength⟩ hrest
    simp only [readMember, hunknown, readColon_append hws, hskip, bind, Except.bind, pure,
      Except.pure]

/-! ## Fields in their order -/

theorem readArrayEnd_append {ws : List UInt8} (hws : Blanks ws) :
    readArrayEnd (ws ++ ascii ']' :: rest) = .ok rest := by
  have hbracket : isBlankOctet (ascii ']') = false := by decide
  simp only [readArrayEnd, skipBlanks_append hws hbracket, if_true]

theorem exists_of_readArrayEnd (h : readArrayEnd input = .ok rest) :
    ∃ ws, Blanks ws ∧ input = ws ++ ascii ']' :: rest := by
  rw [readArrayEnd] at h
  split at h
  · cases h
  · next hskip =>
    split at h
    · next hb =>
      cases h
      exact hb ▸ exists_of_skipBlanks hskip
    · cases h

theorem exists_of_readPositional {expected : String}
    (hfields : ∀ f ∈ fields, ∀ s, ReadsOnly (f.read s) (takes f.key s)) {count : Nat}
    (h : readPositional expected fields count s input = .ok (s', rest)) :
    ∃ inside texts, Entries (ascii ']') (· = ·) (count == 0) inside texts ∧
      Filled takes fields s texts s' ∧ input = inside ++ rest := by
  induction fields generalizing count s input with
  | nil =>
    obtain ⟨after, hend, hstate⟩ := exists_of_map_eq_ok h
    cases hstate
    obtain ⟨ws, hws, rfl⟩ := exists_of_readArrayEnd hend
    exact ⟨_, [], .close hws, .done rfl, by rw [List.append_assoc, List.singleton_append]⟩
  | cons f fields ih =>
    obtain ⟨hf, hmore⟩ := List.forall_mem_cons.1 hfields
    rw [readPositional] at h
    split at h
    · cases h
    · next hdone =>
      split at h
      · next hoptional =>
        cases h
        obtain ⟨ws, hws, rfl⟩ := exists_of_nextEntry_done hdone
        exact ⟨_, [], .close hws, .done hoptional,
          by rw [List.append_assoc, List.singleton_append]⟩
      · cases h
    · next hnext =>
      split at h
      · cases h
      · next s₁ after hread =>
        obtain ⟨lead, hlead, rfl⟩ := exists_of_nextEntry_more hnext
        obtain ⟨ws, text, hws, htext, rfl⟩ := hf s hread
        obtain ⟨inside, texts, hentries, hfilled, rfl⟩ := ih hmore h
        refine ⟨_, text :: texts, .next (hlead.append hws) rfl hentries, .next htext hfilled, ?_⟩
        simp only [List.append_assoc]

theorem readPositional_entries {expected : String}
    (hfields : ∀ f ∈ fields, ∀ s, ReadsAll (f.read s) (takes f.key s))
    (hstarts : ∀ {key s text s'}, takes key s text s' → Starts text) {count : Nat}
    {texts : List (List UInt8)} (h : Entries (ascii ']') (· = ·) (count == 0) inside texts)
    (hfilled : Filled takes fields s texts s') :
    readPositional expected fields count s (inside ++ rest) = .ok (s', rest) := by
  induction hfilled generalizing count inside with
  | @done fields s hoptional =>
    cases h with
    | close hws =>
      rw [List.append_assoc, List.singleton_append]
      cases fields with
      | nil => rw [readPositional, readArrayEnd_append hws]; rfl
      | cons f fields =>
        have hend : nextEntry (ascii ']') (count == 0) _ = .ok (.done rest) :=
          nextEntry_end hws (by decide)
        simp only [readPositional, hend, hoptional, if_true]
  | @next f fields text texts s s₁ s₂ here _ ih =>
    obtain ⟨hf, hmore⟩ := List.forall_mem_cons.1 hfields
    cases h with
    | @next _ lead text' inside _ _ hlead htext hentries =>
      obtain rfl := htext
      have hend : EndsNumber (inside ++ rest) := hentries.endsNumber fun _ => endsNumber_bracket
      have hread := hf s .nil here hend
      have hrest : readPositional expected fields (count + 1) s₁ (inside ++ rest) = .ok (s₂, rest) :=
        ih hmore hentries
      obtain ⟨b, text', rfl, hb, hne⟩ := hstarts here
      have hnext : nextEntry (ascii ']') (count == 0) (lead ++ b :: (text' ++ (inside ++ rest))) =
          .ok (.more (b :: (text' ++ (inside ++ rest)))) :=
        nextEntry_lead (by decide) hlead hb hne
      simp only [List.append_assoc, List.cons_append, List.nil_append] at hread hnext ⊢
      simp only [readPositional, hnext, hread, hrest]

/-! ## Records -/

variable {name : String} {empty : σ}

theorem readsOnly_readRecord
    (hfields : ∀ f ∈ fields, ∀ s, ReadsOnly (f.read s) (takes f.key s)) :
    ReadsOnly (readRecord name fields empty) (RecordText fields takes empty) := by
  intro input s rest h
  obtain ⟨start, hstart, h⟩ := exists_of_bind_eq_ok h
  obtain ⟨ws, text, hws, htext, rfl⟩ := exists_of_readStart hstart
  cases htext with
  | scalar here => cases h
  | array =>
    obtain ⟨inside, texts, hcut, hvalues, rfl⟩ := exists_of_readPositional hfields h
    exact ⟨ws, _, hws, .array hcut hvalues, rfl⟩
  | object =>
    obtain ⟨⟨state, after⟩, hmembers, hstate⟩ := exists_of_bind_eq_ok h
    dsimp only at hstate
    split at hstate
    · cases hstate
    · next hcomplete =>
      cases hstate
      obtain ⟨inside, texts, hcut, hvalues, rfl⟩ :=
        exists_of_readMembers keysOnly_scanString (membersOnly_readMember hfields) hmembers
      exact ⟨ws, _, hws, .object hcut hvalues hcomplete, rfl⟩

theorem readsAll_readRecord
    (hfields : ∀ f ∈ fields, ∀ s, ReadsAll (f.read s) (takes f.key s))
    (hstarts : ∀ {key s text s'}, takes key s text s' → Starts text) :
    ReadsAll (readRecord name fields empty) (RecordText fields takes empty) := by
  intro ws text s rest hws h hrest
  cases h with
  | object cut values complete =>
    have hfuel := cut.length_le
    rw [List.cons_append, readRecord_of_object (readStart_object hws),
      readMembers_entries keysAll_scanString (membersAll_readMember hfields) cut values
        (by simp only [List.length_append]; omega)]
    simp only [complete]
  | array cut values =>
    rw [List.cons_append]
    simp only [readRecord, readStart_array hws, bind, Except.bind]
    exact readPositional_entries hfields hstarts cut values

end ControlPlane.Json
