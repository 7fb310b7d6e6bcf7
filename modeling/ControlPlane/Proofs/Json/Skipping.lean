import ControlPlane.Proofs.Json.Texts

/-!
# Passing over values of any text

The value of a member that nobody asks for is passed over if its text is one of those in the
grammar, however deeply it nests: the reader may go as deep as the text is long.

## Main statements

- `Json.readsOnly_skipValue`: what is passed over may be passed over.
- `Json.readsAll_skipValue`: what may be passed over is, given room for its depth.
-/

namespace ControlPlane.Json

variable {α : Type} {input rest ws text : List UInt8} {fuel : Nat}

/-! ## The front of a value -/

theorem skipStart_blanks {b : UInt8} (hws : Blanks ws) (hb : isBlankOctet b = false) :
    skipStart (ws ++ b :: rest) = skipStart (b :: rest) := by
  simp only [skipStart, skipBlanks_append hws hb, skipBlanks_cons hb]

theorem exists_of_skipStart {start : Start} (h : skipStart input = .ok start) :
    ∃ ws text, Blanks ws ∧ StartText (fun text _ => Skimmed text) text start ∧
      input = ws ++ text := by
  rw [skipStart] at h
  split at h
  · cases h
  · next b more hskip =>
    obtain ⟨ws, hws, rfl⟩ := exists_of_skipBlanks hskip
    split_ifs at h with hstring hminus hdigit
    · obtain ⟨rest, hscan, rfl⟩ := exists_of_map_eq_ok h
      obtain ⟨raw, hraw, rfl⟩ := exists_of_skipString hscan
      rw [hstring, ← quoted_append]
      exact ⟨ws, _, hws, .scalar (Skimmed.string hraw), rfl⟩
    · obtain ⟨⟨t, rest⟩, hscan, rfl⟩ := exists_of_map_eq_ok h
      obtain ⟨text, hmagnitude, rfl⟩ := magnitude_of_scanNumber hscan
      rw [hminus]
      exact ⟨ws, _, hws, .scalar (Skimmed.number (.negative hmagnitude)), rfl⟩
    · obtain ⟨⟨t, rest⟩, hscan, rfl⟩ := exists_of_map_eq_ok h
      obtain ⟨text, hmagnitude, hinput⟩ := magnitude_of_scanNumber hscan
      rw [hinput]
      exact ⟨ws, _, hws, .scalar (Skimmed.number (.positive hmagnitude)), rfl⟩
    · obtain ⟨ws', text, hws', htext, hinput⟩ := exists_of_readStart h
      refine ⟨ws ++ ws', text, hws.append hws', ?_, by rw [hinput, List.append_assoc]⟩
      cases htext with
      | scalar here => exact .scalar here.skimmed
      | array => exact .array
      | object => exact .object

theorem skipStart_digits {b : UInt8} {more : List UInt8} (hinput : input = b :: more)
    (hb : isDigitOctet b = true) :
    skipStart input =
      (scanNumber .malformed false input).map fun (_, rest) => .scalar .null rest := by
  subst hinput
  have hne {c : UInt8} (hc : isDigitOctet c = false) : b ≠ c := ne_of_isDigitOctet hb hc
  simp only [skipStart, skipBlanks_cons (isBlankOctet_of_isDigitOctet hb)]
  rw [if_neg (hne (by decide)), if_neg (hne (by decide)), if_pos hb]

theorem skipStart_number {t : NumberText} (h : NumberSpelled text t) (hrest : EndsNumber rest) :
    skipStart (text ++ rest) = .ok (.scalar .null rest) := by
  cases h with
  | positive magnitude =>
    obtain ⟨b, more, rfl, hb⟩ := magnitude.exists_digit
    rw [skipStart_digits (List.cons_append ..) hb, scanNumber_magnitude magnitude hrest]
    rfl
  | @negative text _ magnitude =>
    have hstart : skipStart (ascii '-' :: (text ++ rest)) =
        (scanNumber .malformed true (text ++ rest)).map fun (_, rest) => .scalar .null rest := rfl
    rw [List.cons_append, hstart, scanNumber_magnitude magnitude hrest]
    rfl

theorem skipStart_quoted {raw : List UInt8} (h : Passes raw) :
    skipStart (quoted raw ++ rest) = .ok (.scalar .null rest) := by
  have hstart : skipStart (quoted raw ++ rest) =
      (skipString (raw ++ [ascii '"'] ++ rest)).map (.scalar .null) := rfl
  rw [hstart, List.append_assoc, List.singleton_append, skipString_passes h]
  rfl

/-! ## Values -/

/-- A key that nobody asks for. -/
def skipKey : Reader Unit := fun input => (skipString input).map fun rest => ((), rest)

/-- A member that nobody asks for, from after its key. -/
def skipMember (fuel : Nat) (_ _ : Unit) : Reader Unit := fun input => do
  let input ← readColon input
  skipValue fuel input

theorem skipValue_of_scalar {v : Json} (h : skipStart input = .ok (.scalar v rest)) :
    skipValue (fuel + 1) input = .ok ((), rest) := by
  simp only [skipValue, h]

theorem skipValue_of_array (h : skipStart input = .ok (.array rest)) :
    skipValue (fuel + 1) input =
      (readItems (skipValue fuel) (rest.length + 1) true rest).map fun (_, rest) =>
        ((), rest) := by
  simp only [skipValue, h]

theorem skipValue_of_object (h : skipStart input = .ok (.object rest)) :
    skipValue (fuel + 1) input =
      readMembers skipKey (skipMember fuel) (rest.length + 1) true () rest := by
  simp only [skipValue, h]
  rfl

theorem keysOnly_skipKey : KeysOnly skipKey fun raw _ => Passes raw := by
  intro input k rest h
  obtain ⟨rest, hskip, hresult⟩ := exists_of_map_eq_ok h
  cases hresult
  exact exists_of_skipString hskip

theorem keysAll_skipKey : KeysAll skipKey fun raw _ => Passes raw := by
  intro raw k rest h
  rw [skipKey, skipString_passes h]
  rfl

theorem membersOnly_skipMember {texts : List UInt8 → Unit → Prop}
    (hread : ReadsOnly (skipValue fuel) texts) :
    MembersOnly (skipMember fuel) fun _ m _ => texts m.2 () := by
  intro _ key input _ rest h
  obtain ⟨more, hcolon, hvalue⟩ := exists_of_bind_eq_ok h
  obtain ⟨ws, hws, rfl⟩ := exists_of_readColon hcolon
  obtain ⟨ws', text, hws', htext, rfl⟩ := hread hvalue
  exact ⟨ws, ws', text, hws, hws', htext, rfl⟩

theorem membersAll_skipMember {texts : List UInt8 → Unit → Prop}
    (hread : ReadsAll (skipValue fuel) texts) :
    MembersAll (skipMember fuel) fun _ m _ => texts m.2 () := by
  intro ws ws' _ key text _ rest hws hws' h hrest
  simp only [skipMember, readColon_append hws, bind, Except.bind]
  exact hread hws' h hrest

/-- What is passed over may be passed over. -/
theorem readsOnly_skipValue (fuel : Nat) :
    ReadsOnly (skipValue fuel) fun text _ => Skimmed text := by
  induction fuel with
  | zero =>
    intro input _ rest h
    cases h
  | succ fuel ih =>
    intro input _ rest h
    cases hstart : skipStart input with
    | error e => simp only [skipValue, hstart, reduceCtorEq] at h
    | ok start =>
      obtain ⟨ws, text, hws, htext, rfl⟩ := exists_of_skipStart hstart
      cases htext with
      | scalar here =>
        cases (skipValue_of_scalar hstart).symm.trans h
        exact ⟨ws, _, hws, here, rfl⟩
      | array =>
        rw [skipValue_of_array hstart] at h
        obtain ⟨⟨items, after⟩, hitems, hv⟩ := exists_of_map_eq_ok h
        cases hv
        obtain ⟨inside, raws, hcut, hvalues, rfl⟩ := exists_of_readItems ih hitems
        have hskimmed : List.Forall₂ (fun text _ => Skimmed text ∧ True) raws items :=
          hvalues.imp fun _ _ h => ⟨h, trivial⟩
        exact ⟨ws, _, hws, .array hcut ((List.forall₂_and_left _ _).1 hskimmed).1, rfl⟩
      | object =>
        rw [skipValue_of_object hstart] at h
        obtain ⟨inside, raws, hcut, hvalues, rfl⟩ :=
          exists_of_readMembers keysOnly_skipKey (membersOnly_skipMember ih) h
        exact ⟨ws, _, hws, .object hcut (hvalues.forall_mem fun h => h), rfl⟩

/-- A step that leaves nothing to remember is made for every entry that allows it. -/
theorem along_unit {p : α → Prop} {as : List α} (h : ∀ a ∈ as, p a) :
    Along (fun (_ : Unit) a _ => p a) () as () := by
  induction as with
  | nil => exact .nil
  | cons a as ih => exact .cons (h a List.mem_cons_self) (ih (List.forall_mem_cons.1 h).2)

/-- Every text that may be passed over is, if the reader may go as deep as the text is long. -/
theorem readsAll_skipValue (fuel : Nat) :
    ReadsAll (skipValue fuel) fun text _ => Skimmed text ∧ text.length ≤ fuel := by
  induction fuel with
  | zero =>
    rintro ws text _ rest hws ⟨htext, hlength⟩
    obtain ⟨b, more, rfl, -⟩ := htext.starts
    exact absurd hlength (Nat.not_succ_le_zero _)
  | succ fuel ih =>
    rintro ws text _ rest hws ⟨htext, hlength⟩ hrest
    have hblanks : skipStart (ws ++ (text ++ rest)) = skipStart (text ++ rest) := by
      obtain ⟨b, more, rfl, hb, -⟩ := htext.starts
      exact skipStart_blanks hws hb
    cases htext with
    | null => exact skipValue_of_scalar (hblanks.trans rfl)
    | true => exact skipValue_of_scalar (hblanks.trans rfl)
    | false => exact skipValue_of_scalar (hblanks.trans rfl)
    | number parts => exact skipValue_of_scalar (hblanks.trans (skipStart_number parts hrest))
    | string passes => exact skipValue_of_scalar (hblanks.trans (skipStart_quoted passes))
    | @array inside raws cut items =>
      have hfuel := cut.length_le
      have hitems : List.Forall₂ (fun text _ => Skimmed text ∧ text.length ≤ fuel) raws
          (raws.map fun _ => ()) := by
        rw [List.forall₂_map_right_iff, List.forall₂_same]
        intro raw hraw
        obtain ⟨_, rfl, hle⟩ := cut.exists_text raw hraw
        exact ⟨items _ hraw, hle.trans (Nat.le_of_succ_le_succ hlength)⟩
      rw [List.cons_append] at hblanks ⊢
      rw [skipValue_of_array (hblanks.trans rfl),
        readItems_entries ih (fun h => h.1.starts) cut hitems
          (by simp only [List.length_append]; omega)]
      rfl
    | @object inside raws cut members =>
      have hfuel := cut.length_le
      have hmembers : ∀ m ∈ raws, Skimmed m.2 ∧ m.2.length ≤ fuel := by
        intro m hm
        obtain ⟨_, hmember, hle⟩ := cut.exists_text m hm
        cases hmember
        refine ⟨members _ hm, ?_⟩
        simp only [List.length_append, List.length_cons] at hle hlength ⊢
        omega
      rw [List.cons_append] at hblanks ⊢
      rw [skipValue_of_object (hblanks.trans rfl),
        readMembers_entries keysAll_skipKey (membersAll_skipMember ih) cut (along_unit hmembers)
          (by simp only [List.length_append]; omega)]


end ControlPlane.Json
