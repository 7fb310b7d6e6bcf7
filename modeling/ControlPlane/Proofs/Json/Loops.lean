import ControlPlane.Proofs.Json.Scanning
import Mathlib.Data.List.TakeWhile

/-!
# Reading texts of a grammar

What it means that a reader reads the texts of a grammar and no others. Arrays and objects are read
by two loops that take the reader of an item or a member, and a whole text by a frame around its
reader. What is known of the reader they are given carries over to each of them, so each of them is
followed once.

## Main definitions

- `Json.ReadsOnly`, `Json.ReadsAll`: the two directions, for a reader and a set of texts.
- `Json.KeysOnly`, `Json.KeysAll`, `Json.MembersOnly`, `Json.MembersAll`: the same for the two parts
  of a member.

## Main statements

- `Json.exists_of_readItems`, `Json.readItems_entries`: the items of an array.
- `Json.exists_of_readMembers`, `Json.readMembers_entries`: the members of an object.
- `Json.ofText_eq_ok_iff`: whole texts.
-/

namespace ControlPlane.Json

variable {α σ κ : Type} {input rest ws inside text : List UInt8} {first : Bool}

/-- What `reader` reads are blanks and one of the texts. -/
def ReadsOnly (reader : Reader α) (texts : List UInt8 → α → Prop) : Prop :=
  ∀ ⦃input a rest⦄, reader input = .ok (a, rest) →
    ∃ ws text, Blanks ws ∧ texts text a ∧ input = ws ++ (text ++ rest)

/-- Each of the texts is read, if a number could end behind it. -/
def ReadsAll (reader : Reader α) (texts : List UInt8 → α → Prop) : Prop :=
  ∀ ⦃ws text a rest⦄, Blanks ws → texts text a → EndsNumber rest →
    reader (ws ++ (text ++ rest)) = .ok (a, rest)

section Map

variable {β : Type} {reader : Reader α} {texts : List UInt8 → α → Prop} {f : α → β}

theorem ReadsOnly.map (h : ReadsOnly reader texts) :
    ReadsOnly (fun input => (reader input).map fun (a, rest) => (f a, rest)) fun text b =>
      ∃ a, texts text a ∧ f a = b := by
  intro input b rest hread
  obtain ⟨⟨a, rest⟩, ha, hb⟩ := exists_of_map_eq_ok hread
  cases hb
  obtain ⟨ws, text, hws, htext, hinput⟩ := h ha
  exact ⟨ws, text, hws, ⟨a, htext, rfl⟩, hinput⟩

theorem ReadsAll.map (h : ReadsAll reader texts) :
    ReadsAll (fun input => (reader input).map fun (a, rest) => (f a, rest)) fun text b =>
      ∃ a, texts text a ∧ f a = b := by
  rintro ws text b rest hws ⟨a, htext, rfl⟩ hrest
  simp only [h hws htext hrest, Except.map]

end Map

/-- A text that starts with neither a blank nor a closing bracket. -/
def Starts (text : List UInt8) : Prop :=
  ∃ b more, text = b :: more ∧ isBlankOctet b = false ∧ b ≠ ascii ']'

/-! ## The inside of a bracket -/

/-- A number does not go on with a blank. -/
theorem endsNumber_blank {w : UInt8} (hw : isBlankOctet w = true) : EndsNumber (w :: rest) := by
  simp only [isBlankOctet, Bool.or_eq_true, beq_iff_eq] at hw
  rintro _ ⟨⟩
  rcases hw with ((rfl | rfl) | rfl) | rfl <;> decide

theorem EndsNumber.blanks (hws : Blanks ws) (h : EndsNumber rest) : EndsNumber (ws ++ rest) := by
  cases ws with
  | nil => exact h
  | cons w ws => exact endsNumber_blank (hws w List.mem_cons_self)

namespace Entries

variable {close : UInt8} {entry : List UInt8 → α → Prop} {as : List α}

/-- A number can end where a bracket goes on after an entry. -/
theorem endsNumber (hclose : ∀ rest, EndsNumber (close :: rest))
    (h : Entries close entry false inside as) : EndsNumber (inside ++ rest) := by
  cases h with
  | close blanks =>
    rw [List.append_assoc]
    exact .blanks blanks (hclose rest)
  | next front here more =>
    cases front with
    | next blanks blanks' =>
      rw [List.append_assoc, List.append_assoc]
      exact .blanks blanks endsNumber_comma

/-- The commas and the closing mark are as many as the entries, at least. -/
theorem length_le (h : Entries close entry first inside as) : as.length ≤ inside.length := by
  suffices hmarks : as.length + (!first).toNat ≤ inside.length from Nat.le_of_add_right_le hmarks
  induction h with
  | @close first ws blanks =>
    have hmark : (!first).toNat ≤ 1 := Bool.toNat_le _
    simp only [List.length_append, List.length_nil, List.length_singleton]
    omega
  | next front here more ih =>
    cases front with
    | first blanks =>
      simp only [List.length_append, List.length_cons, Bool.not_true, Bool.not_false,
        Bool.toNat_true, Bool.toNat_false] at ih ⊢
      omega
    | next blanks blanks' =>
      simp only [List.length_append, List.length_cons, Bool.not_false, Bool.toNat_true] at ih ⊢
      omega

/-- The text of an entry is no longer than the inside it stands in. -/
theorem exists_text (h : Entries close entry first inside as) :
    ∀ a ∈ as, ∃ text, entry text a ∧ text.length ≤ inside.length := by
  induction h with
  | close _ => exact fun a ha => absurd ha List.not_mem_nil
  | @next first lead text inside a as front here more ih =>
    have hlength : text.length ≤ (lead ++ (text ++ inside)).length ∧
        inside.length ≤ (lead ++ (text ++ inside)).length := by
      simp only [List.length_append]
      omega
    refine List.forall_mem_cons.2 ⟨⟨text, here, hlength.1⟩, fun a ha => ?_⟩
    obtain ⟨text', hentry, hle⟩ := ih a ha
    exact ⟨text', hentry, hle.trans hlength.2⟩

/-- The text of one entry may be exchanged for that of another. -/
theorem exists_split {before after : List α} {a : α}
    (h : Entries close entry first inside (before ++ a :: after)) :
    ∃ front text back, inside = front ++ (text ++ back) ∧ entry text a ∧
      ∀ {text' a'}, entry text' a' →
        Entries close entry first (front ++ (text' ++ back)) (before ++ a' :: after) := by
  induction before generalizing first inside with
  | nil =>
    cases h with
    | next lead here more => exact ⟨_, _, _, rfl, here, fun here' => .next lead here' more⟩
  | cons b before ih =>
    cases h with
    | @next _ lead text _ _ _ hlead here more =>
      obtain ⟨front, text', back, rfl, here', hmore⟩ := ih more
      refine ⟨lead ++ (text ++ front), text', back, ?_, here', fun h => ?_⟩
      · simp only [List.append_assoc]
      · rw [List.append_assoc, List.append_assoc]
        exact .next hlead here (hmore h)

end Entries

/-! ## Items and members -/

section Items

variable {item : Reader α} {texts : List UInt8 → α → Prop} {raws : List (List UInt8)} {as : List α}

/-- The items of an array are read one after another. -/
theorem exists_of_readItems (hitem : ReadsOnly item texts) {fuel : Nat}
    (h : readItems item fuel first input = .ok (as, rest)) :
    ∃ inside raws, Entries (ascii ']') (· = ·) first inside raws ∧ List.Forall₂ texts raws as ∧
      input = inside ++ rest := by
  induction fuel generalizing first input as with
  | zero => cases h
  | succ fuel ih =>
    rw [readItems] at h
    split at h
    · cases h
    · next hdone =>
      cases h
      obtain ⟨ws, hws, rfl⟩ := exists_of_nextEntry_done hdone
      exact ⟨_, [], .close hws, .nil, by rw [List.append_assoc, List.singleton_append]⟩
    · next more hmore =>
      obtain ⟨lead, hlead, rfl⟩ := exists_of_nextEntry_more hmore
      split at h
      · cases h
      · next a after ha =>
        split at h
        · cases h
        · next as rest has =>
          cases h
          obtain ⟨ws, text, hws, htext, rfl⟩ := hitem ha
          obtain ⟨inside, raws, hentries, hvalues, rfl⟩ := ih has
          refine ⟨_, text :: raws, .next (hlead.append hws) rfl hentries, .cons htext hvalues, ?_⟩
          simp only [List.append_assoc]

theorem readItems_entries (hitem : ReadsAll item texts)
    (hstarts : ∀ {text a}, texts text a → Starts text)
    (h : Entries (ascii ']') (· = ·) first inside raws) (hvalues : List.Forall₂ texts raws as)
    {fuel : Nat} (hfuel : raws.length < fuel) :
    readItems item fuel first (inside ++ rest) = .ok (as, rest) := by
  induction h generalizing as fuel with
  | close hws =>
    cases hvalues
    obtain ⟨fuel, rfl⟩ := Nat.exists_eq_succ_of_ne_zero (Nat.ne_of_gt hfuel)
    rw [List.append_assoc, List.singleton_append]
    simp only [readItems, nextEntry_end hws (by decide : isBlankOctet (ascii ']') = false)]
  | @next first lead text inside _ raws hlead here more ih =>
    obtain ⟨fuel, rfl⟩ := Nat.exists_eq_succ_of_ne_zero (Nat.ne_of_gt (Nat.zero_lt_of_lt hfuel))
    obtain rfl := here
    cases hvalues with
    | cons htext hvalues =>
      have hend : EndsNumber (inside ++ rest) := more.endsNumber fun _ => endsNumber_bracket
      have hread := hitem .nil htext hend
      have hmore := ih hvalues (Nat.lt_of_succ_lt_succ hfuel)
      obtain ⟨b, text, rfl, hb, hne⟩ := hstarts htext
      have hnext : nextEntry (ascii ']') first (lead ++ b :: (text ++ (inside ++ rest))) =
          .ok (.more (b :: (text ++ (inside ++ rest)))) :=
        nextEntry_lead (by decide) hlead hb hne
      simp only [List.append_assoc, List.cons_append, List.nil_append] at hread hnext ⊢
      simp only [readItems, hnext, hread, hmore]

end Items

section Members

variable {key : Reader κ} {member : σ → κ → Reader σ} {keys : List UInt8 → κ → Prop}
  {step : σ → κ × List UInt8 → σ → Prop} {raws : List (κ × List UInt8)} {s s' : σ}

/-- What `key` reads from behind an opening quote is one of the keys, up to its closing quote. -/
def KeysOnly (key : Reader κ) (keys : List UInt8 → κ → Prop) : Prop :=
  ∀ ⦃input k rest⦄, key input = .ok (k, rest) →
    ∃ raw, keys raw k ∧ input = raw ++ ascii '"' :: rest

/-- Each of the keys is read. -/
def KeysAll (key : Reader κ) (keys : List UInt8 → κ → Prop) : Prop :=
  ∀ ⦃raw k⦄ rest, keys raw k → key (raw ++ ascii '"' :: rest) = .ok (k, rest)

/-- What `member` reads behind a key are a colon and a text that makes the step. -/
def MembersOnly (member : σ → κ → Reader σ) (step : σ → κ × List UInt8 → σ → Prop) : Prop :=
  ∀ ⦃s k input s' rest⦄, member s k input = .ok (s', rest) →
    ∃ ws ws' text, Blanks ws ∧ Blanks ws' ∧ step s (k, text) s' ∧
      input = ws ++ ascii ':' :: (ws' ++ (text ++ rest))

/-- Each text that makes a step is read behind a colon. -/
def MembersAll (member : σ → κ → Reader σ) (step : σ → κ × List UInt8 → σ → Prop) : Prop :=
  ∀ ⦃ws ws' s k text s' rest⦄, Blanks ws → Blanks ws' → step s (k, text) s' → EndsNumber rest →
    member s k (ws ++ ascii ':' :: (ws' ++ (text ++ rest))) = .ok (s', rest)

/-- The members of an object are read one after another. -/
theorem exists_of_readMembers (hkey : KeysOnly key keys) (hmember : MembersOnly member step)
    {fuel : Nat} (h : readMembers key member fuel first s input = .ok (s', rest)) :
    ∃ inside raws, Entries (ascii '\x7d') (MemberText keys) first inside raws ∧
      Along step s raws s' ∧ input = inside ++ rest := by
  induction fuel generalizing first input s with
  | zero => cases h
  | succ fuel ih =>
    rw [readMembers] at h
    split at h
    · cases h
    · next hdone =>
      cases h
      obtain ⟨ws, hws, rfl⟩ := exists_of_nextEntry_done hdone
      exact ⟨_, [], .close hws, .nil, by rw [List.append_assoc, List.singleton_append]⟩
    · cases h
    · next b more hmore =>
      obtain ⟨lead, hlead, rfl⟩ := exists_of_nextEntry_more hmore
      split at h
      · next hquote =>
        split at h
        · cases h
        · next k after hk =>
          split at h
          · cases h
          · next s after' hs =>
            obtain ⟨raw, hraw, rfl⟩ := hkey hk
            obtain ⟨ws, ws', text, hws, hws', hstep, rfl⟩ := hmember hs
            obtain ⟨inside, raws, hentries, halong, rfl⟩ := ih h
            refine ⟨_, (k, text) :: raws, .next hlead (.intro hraw hws hws' text) hentries,
              .cons hstep halong, ?_⟩
            simp only [hquote, quoted, List.append_assoc, List.cons_append, List.nil_append]
      · cases h

theorem readMembers_entries (hkey : KeysAll key keys) (hmember : MembersAll member step)
    (h : Entries (ascii '\x7d') (MemberText keys) first inside raws) (halong : Along step s raws s')
    {fuel : Nat} (hfuel : raws.length < fuel) :
    readMembers key member fuel first s (inside ++ rest) = .ok (s', rest) := by
  induction h generalizing s fuel with
  | close hws =>
    cases halong
    obtain ⟨fuel, rfl⟩ := Nat.exists_eq_succ_of_ne_zero (Nat.ne_of_gt hfuel)
    rw [List.append_assoc, List.singleton_append]
    simp only [readMembers, nextEntry_end hws (by decide : isBlankOctet (ascii '\x7d') = false)]
  | @next first lead _ inside _ raws hlead here more ih =>
    obtain ⟨fuel, rfl⟩ := Nat.exists_eq_succ_of_ne_zero (Nat.ne_of_gt (Nat.zero_lt_of_lt hfuel))
    cases here with
    | @intro raw ws ws' k hraw hws hws' text =>
      cases halong with
      | cons hstep halong =>
        have hend : EndsNumber (inside ++ rest) := more.endsNumber fun _ => endsNumber_brace
        have hread := hmember hws hws' hstep hend
        have hmore := ih halong (Nat.lt_of_succ_lt_succ hfuel)
        have hk := hkey (ws ++ ascii ':' :: (ws' ++ (text ++ (inside ++ rest)))) hraw
        have hnext (after : List UInt8) : nextEntry (ascii '\x7d') first
            (lead ++ ascii '"' :: after) = .ok (.more (ascii '"' :: after)) :=
          nextEntry_lead (by decide) hlead (by decide) (by decide)
        simp only [quoted, List.append_assoc, List.cons_append, List.nil_append]
        simp only [readMembers, hnext, hk, hread, hmore, if_true]

end Members

/-! ## Whole texts -/

theorem Blanks.endsNumber (hws : Blanks ws) : EndsNumber ws := by
  cases ws with
  | nil => rintro _ ⟨⟩
  | cons w ws => exact endsNumber_blank (hws w List.mem_cons_self)

/-- A whole text is one of the texts of its reader, with blanks around it. -/
theorem ofText_eq_ok_iff {reader : Reader α} {texts : List UInt8 → α → Prop} {a : α}
    (honly : ReadsOnly reader texts) (hall : ReadsAll reader texts) :
    ofText reader input = .ok a ↔
      ∃ ws text ws', Blanks ws ∧ Blanks ws' ∧ texts text a ∧ input = ws ++ (text ++ ws') := by
  constructor
  · intro h
    obtain ⟨⟨a, rest⟩, hread, h⟩ := exists_of_bind_eq_ok h
    obtain ⟨_, hend, h⟩ := exists_of_bind_eq_ok h
    cases h
    obtain ⟨ws, text, hws, htext, hinput⟩ := honly hread
    refine ⟨ws, text, rest, hws, ?_, htext, hinput⟩
    rw [expectEnd] at hend
    split at hend
    · next hempty => exact List.dropWhile_eq_nil_iff.1 (List.isEmpty_iff.1 hempty)
    · cases hend
  · rintro ⟨ws, text, ws', hws, hws', htext, rfl⟩
    have hend : skipBlanks ws' = [] := List.dropWhile_eq_nil_iff.2 hws'
    simp only [ofText, hall hws htext hws'.endsNumber, expectEnd, hend, List.isEmpty_nil, if_true,
      bind, Except.bind, pure, Except.pure]

end ControlPlane.Json
