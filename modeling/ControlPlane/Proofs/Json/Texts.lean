import ControlPlane.Proofs.Json.Loops

/-!
# Reading values of any text

The reader of values reads the texts of the grammar and no others: what it takes from the front of
an input is blanks and one of the texts that denote the value it answers, and in front of whatever
does not go on with a number every such text is read. The same holds of whole numbers of a fixed
width.

## Main definitions

- `Json.NaturalText`: the texts of whole numbers of a fixed width.

## Main statements

- `Json.readsOnly_readValue`, `Json.readsAll_readValue`: values.
- `Json.denotes_print`: what is written for a value is one of its texts.
- `Json.readsOnly_readUnsigned`, `Json.readsAll_readUnsigned`: whole numbers.
-/

namespace ControlPlane.Json

variable {input rest ws text : List UInt8} {levels : Nat}

/-! ## The front of a value -/

theorem Magnitude.exists_digit {negative : Bool} {t : NumberText} (h : Magnitude negative text t) :
    ∃ b more, text = b :: more ∧ isDigitOctet b = true := by
  cases h with
  | intro whole fraction exponent =>
    obtain ⟨d, ds, rfl⟩ := List.exists_cons_of_ne_nil whole.nonempty
    exact ⟨d, _, rfl, whole.digits d List.mem_cons_self⟩

/-- A text that is passed over starts with neither a blank nor a closing bracket. -/
theorem Skimmed.starts (h : Skimmed text) : Starts text := by
  cases h with
  | null => exact ⟨_, _, rfl, by decide, by decide⟩
  | true => exact ⟨_, _, rfl, by decide, by decide⟩
  | false => exact ⟨_, _, rfl, by decide, by decide⟩
  | number parts =>
    cases parts with
    | positive magnitude =>
      obtain ⟨b, more, rfl, hb⟩ := magnitude.exists_digit
      refine ⟨b, more, rfl, isBlankOctet_of_isDigitOctet hb, ?_⟩
      rintro rfl
      exact absurd hb (by decide)
    | negative _ => exact ⟨_, _, rfl, by decide, by decide⟩
  | string _ => exact ⟨_, _, rfl, by decide, by decide⟩
  | array _ _ => exact ⟨_, _, rfl, by decide, by decide⟩
  | object _ _ => exact ⟨_, _, rfl, by decide, by decide⟩

/-- The front of an input, when scalars have the texts that `scalar` says. -/
inductive StartText (scalar : List UInt8 → Json → Prop) : List UInt8 → Start → Prop
  | scalar {text rest : List UInt8} {v : Json} (here : scalar text v) :
      StartText scalar (text ++ rest) (.scalar v rest)
  | array {rest : List UInt8} : StartText scalar (ascii '[' :: rest) (.array rest)
  | object {rest : List UInt8} : StartText scalar (ascii '\x7b' :: rest) (.object rest)

theorem scanNumberValue_magnitude {negative : Bool} {t : NumberText} {n : Number}
    (h : Magnitude negative text t) (hn : t.value? = some n) (hrest : EndsNumber rest) :
    scanNumberValue negative (text ++ rest) = .ok (n, rest) := by
  simp only [scanNumberValue, scanNumber_magnitude h hrest, hn]

theorem exists_of_scanNumberValue {negative : Bool} {n : Number}
    (h : scanNumberValue negative input = .ok (n, rest)) :
    ∃ text t, Magnitude negative text t ∧ t.value? = some n ∧ input = text ++ rest := by
  rw [scanNumberValue] at h
  split at h
  · cases h
  · next t more hscan =>
    split at h
    · next n hn =>
      cases h
      obtain ⟨text, hmagnitude, hinput⟩ := magnitude_of_scanNumber hscan
      exact ⟨text, t, hmagnitude, hn, hinput⟩
    · cases h

theorem readStart_blanks {b : UInt8} (hws : Blanks ws) (hb : isBlankOctet b = false) :
    readStart (ws ++ b :: rest) = readStart (b :: rest) := by
  simp only [readStart, skipBlanks_append hws hb, skipBlanks_cons hb]

theorem readStart_array (hws : Blanks ws) :
    readStart (ws ++ ascii '[' :: rest) = .ok (.array rest) :=
  (readStart_blanks hws (by decide)).trans rfl

theorem readStart_object (hws : Blanks ws) :
    readStart (ws ++ ascii '\x7b' :: rest) = .ok (.object rest) :=
  (readStart_blanks hws (by decide)).trans rfl

theorem readStart_scalar {v : Json} (hws : Blanks ws) (h : ScalarText text v)
    (hrest : EndsNumber rest) : readStart (ws ++ (text ++ rest)) = .ok (.scalar v rest) := by
  have hblanks : readStart (ws ++ (text ++ rest)) = readStart (text ++ rest) := by
    obtain ⟨b, more, rfl, hb, -⟩ := h.skimmed.starts
    exact readStart_blanks hws hb
  rw [hblanks]
  cases h with
  | null => rfl
  | true => rfl
  | false => rfl
  | number parts value =>
    cases parts with
    | positive magnitude =>
      obtain ⟨b, more, rfl, hb⟩ := magnitude.exists_digit
      rw [readStart_digits (List.cons_append ..) hb, scanNumberValue_magnitude magnitude value hrest]
      rfl
    | @negative text _ magnitude =>
      have hstart : readStart (ascii '-' :: (text ++ rest)) =
          (scanNumberValue true (text ++ rest)).map fun p => .scalar (.number p.1) p.2 := rfl
      rw [List.cons_append, hstart, scanNumberValue_magnitude magnitude value hrest]
      rfl
  | @string raw s spelled =>
    have hstart : readStart (quoted raw ++ rest) =
        (scanString (raw ++ [ascii '"'] ++ rest)).map fun p => .scalar (.string p.1) p.2 := rfl
    rw [hstart, List.append_assoc, List.singleton_append, scanString_spelled spelled]
    rfl

theorem exists_of_readStart {start : Start} (h : readStart input = .ok start) :
    ∃ ws text, Blanks ws ∧ StartText ScalarText text start ∧ input = ws ++ text := by
  rw [readStart] at h
  split at h
  · cases h
  · next b more hskip =>
    obtain ⟨ws, hws, rfl⟩ := exists_of_skipBlanks hskip
    refine ⟨ws, b :: more, hws, ?_, rfl⟩
    split_ifs at h with hnull htrue hfalse hstring harray hobject hminus hdigit
    · obtain ⟨rest, hscan, rfl⟩ := exists_of_map_eq_ok h
      rw [hnull, eq_append_of_scanWord hscan]
      exact .scalar ScalarText.null
    · obtain ⟨rest, hscan, rfl⟩ := exists_of_map_eq_ok h
      rw [htrue, eq_append_of_scanWord hscan]
      exact .scalar ScalarText.true
    · obtain ⟨rest, hscan, rfl⟩ := exists_of_map_eq_ok h
      rw [hfalse, eq_append_of_scanWord hscan]
      exact .scalar ScalarText.false
    · obtain ⟨⟨s, rest⟩, hscan, rfl⟩ := exists_of_map_eq_ok h
      obtain ⟨raw, hraw, rfl⟩ := exists_of_scanString hscan
      rw [hstring, ← quoted_append]
      exact .scalar (ScalarText.string hraw)
    · cases h
      exact harray ▸ .array
    · cases h
      exact hobject ▸ .object
    · obtain ⟨⟨n, rest⟩, hscan, rfl⟩ := exists_of_map_eq_ok h
      obtain ⟨text, t, hmagnitude, hn, rfl⟩ := exists_of_scanNumberValue hscan
      rw [hminus]
      exact .scalar (ScalarText.number (.negative hmagnitude) hn)
    · obtain ⟨⟨n, rest⟩, hscan, rfl⟩ := exists_of_map_eq_ok h
      obtain ⟨text, t, hmagnitude, hn, hinput⟩ := exists_of_scanNumberValue hscan
      rw [hinput]
      exact .scalar (.number (.positive hmagnitude) hn)

/-! ## Values -/

theorem keysOnly_scanString : KeysOnly scanString SpellsText := fun _ _ _ h => exists_of_scanString h

theorem keysAll_scanString : KeysAll scanString SpellsText := fun _ _ rest h =>
  scanString_spelled h rest

theorem membersOnly_readInto (hread : ReadsOnly (readValue levels) (Denotes levels)) :
    MembersOnly (readInto levels) (Entered (Denotes levels)) := by
  intro before key input after rest h
  obtain ⟨more, hcolon, h⟩ := exists_of_bind_eq_ok h
  obtain ⟨⟨v, rest⟩, hv, h⟩ := exists_of_bind_eq_ok h
  cases h
  obtain ⟨ws, hws, rfl⟩ := exists_of_readColon hcolon
  obtain ⟨ws', text, hws', htext, rfl⟩ := hread hv
  exact ⟨ws, ws', text, hws, hws', ⟨v, htext, rfl⟩, rfl⟩

theorem membersAll_readInto (hread : ReadsAll (readValue levels) (Denotes levels)) :
    MembersAll (readInto levels) (Entered (Denotes levels)) := by
  rintro ws ws' before key text _ rest hws hws' ⟨v, hv, rfl⟩ hrest
  simp only [readInto, readColon_append hws, hread hws' hv hrest, bind, Except.bind, pure,
    Except.pure]

/-- What is read as a value denotes it. -/
theorem readsOnly_readValue (levels : Nat) : ReadsOnly (readValue levels) (Denotes levels) := by
  induction levels with
  | zero =>
    intro input v rest h
    cases hstart : readStart input with
    | error e => simp only [readValue, hstart, reduceCtorEq] at h
    | ok start =>
      obtain ⟨ws, text, hws, htext, rfl⟩ := exists_of_readStart hstart
      cases htext with
      | scalar here =>
        cases (readValue_of_scalar hstart).symm.trans h
        exact ⟨ws, _, hws, here, rfl⟩
      | array => simp only [readValue, hstart, reduceCtorEq] at h
      | object => simp only [readValue, hstart, reduceCtorEq] at h
  | succ levels ih =>
    intro input v rest h
    cases hstart : readStart input with
    | error e => simp only [readValue, hstart, reduceCtorEq] at h
    | ok start =>
      obtain ⟨ws, text, hws, htext, rfl⟩ := exists_of_readStart hstart
      cases htext with
      | scalar here =>
        cases (readValue_of_scalar hstart).symm.trans h
        exact ⟨ws, _, hws, .scalar here, rfl⟩
      | array =>
        rw [readValue_of_array hstart] at h
        obtain ⟨⟨items, after⟩, hitems, hv⟩ := exists_of_map_eq_ok h
        cases hv
        obtain ⟨inside, raws, hcut, hvalues, rfl⟩ := exists_of_readItems ih hitems
        exact ⟨ws, _, hws, .array hcut hvalues, rfl⟩
      | object =>
        rw [readValue_of_object hstart] at h
        obtain ⟨⟨members, after⟩, hmembers, hv⟩ := exists_of_map_eq_ok h
        cases hv
        obtain ⟨inside, raws, hcut, hvalues, rfl⟩ :=
          exists_of_readMembers keysOnly_scanString (membersOnly_readInto ih) hmembers
        exact ⟨ws, _, hws, .object hcut hvalues, rfl⟩

/-- Every text of a value is read as the value. -/
theorem readsAll_readValue (levels : Nat) : ReadsAll (readValue levels) (Denotes levels) := by
  induction levels with
  | zero => exact fun ws text v rest hws h hrest => readValue_of_scalar (readStart_scalar hws h hrest)
  | succ levels ih =>
    intro ws text v rest hws h hrest
    cases h with
    | scalar here => exact readValue_of_scalar (readStart_scalar hws here hrest)
    | array cut values =>
      have hfuel := cut.length_le
      rw [List.cons_append, readValue_of_array (readStart_array hws),
        readItems_entries ih (fun h => h.skimmed.starts) cut values
          (by simp only [List.length_append]; omega)]
      rfl
    | object cut values =>
      have hfuel := cut.length_le
      rw [List.cons_append, readValue_of_object (readStart_object hws),
        readMembers_entries keysAll_scanString (membersAll_readInto ih) cut values
          (by simp only [List.length_append]; omega)]
      rfl

/-- What is written for a value is one of its texts. -/
theorem denotes_print {v : Json} (h : v.Whole) (hdepth : depth v ≤ levels) :
    Denotes levels (print v) (sorted v) := by
  have hend : EndsNumber [] := by rintro _ ⟨⟩
  have hread : readValue levels (print v ++ []) = .ok (sorted v, []) :=
    (readsBack h levels [] hend).trans (if_pos hdepth)
  obtain ⟨ws, text, hws, htext, hprint⟩ := readsOnly_readValue levels hread
  rw [List.append_nil, List.append_nil] at hprint
  obtain ⟨b, more, hstart, hb, -⟩ := print_eq_cons h
  cases ws with
  | nil => exact hprint ▸ htext
  | cons w ws =>
    -- A printed value has no blank in front, so the reader has skipped none.
    obtain rfl : b = w := (List.cons_eq_cons.1 (hstart.symm.trans hprint)).1
    exact absurd (hws b List.mem_cons_self) (Bool.eq_false_iff.1 hb)

/-! ## Whole numbers -/

/-- The text of a natural number below `2 ^ bits`. -/
structure NaturalText (bits : Nat) (text : List UInt8) (n : Nat) : Prop where
  numeral : Numeral text
  value : digitsValue text = n
  fits : n < 2 ^ bits

theorem NaturalText.scalarText {bits n : Nat} (h : NaturalText bits text n) (hbits : bits ≤ 64) :
    ScalarText text (.number (.int n)) := by
  have hparts : Magnitude false (text ++ ([] ++ [])) ⟨false, text, none, none⟩ :=
    .intro h.numeral .none .none
  rw [List.append_nil, List.append_nil] at hparts
  have hsize : n < UInt64.size := h.fits.trans_le (Nat.pow_le_pow_right Nat.two_pos hbits)
  refine .number (.positive hparts) ?_
  simp only [NumberText.value?, Bool.false_eq_true, if_false, hsize, if_true, h.value]

theorem float?_ne_int (t : NumberText) (i : Int) : t.float? ≠ some (.int i) := by
  intro h
  obtain ⟨x, -, hx⟩ := Option.map_eq_some_iff.1 h
  cases hx

/-- A whole number from zero on has no sign, no point and no exponent. -/
theorem value?_eq_int {t : NumberText} {i : Int} (h : t.value? = some (.int i)) (hi : 0 ≤ i) :
    t = ⟨false, t.whole, none, none⟩ ∧ i = digitsValue t.whole := by
  obtain ⟨negative, whole, fraction, exponent⟩ := t
  rw [NumberText.value?] at h
  split at h
  · next hfraction hexponent =>
    dsimp only at hfraction hexponent h
    subst hfraction hexponent
    split_ifs at h with hnegative hfits hfits
    · cases h
      omega
    · exact absurd h (float?_ne_int _ _)
    · cases h
      rw [Bool.not_eq_true] at hnegative
      exact ⟨hnegative ▸ rfl, rfl⟩
    · exact absurd h (float?_ne_int _ _)
  · exact absurd h (float?_ne_int _ _)

theorem numeral_of_scalarText {i : Int} (h : ScalarText text (.number (.int i))) (hi : 0 ≤ i) :
    Numeral text ∧ i = digitsValue text := by
  cases h with
  | number parts value =>
    obtain ⟨ht, hvalue⟩ := value?_eq_int value hi
    rw [ht] at parts
    cases parts with
    | positive magnitude =>
      cases magnitude with
      | intro whole fraction exponent =>
        cases fraction
        cases exponent
        rw [List.append_nil, List.append_nil]
        exact ⟨whole, hvalue⟩
    | negative magnitude => cases magnitude

theorem readsOnly_readUnsigned (bits : Nat) : ReadsOnly (readUnsigned bits) (NaturalText bits) := by
  intro input n rest h
  obtain ⟨start, hstart, h⟩ := exists_of_bind_eq_ok h
  obtain ⟨ws, text, hws, htext, rfl⟩ := exists_of_readStart hstart
  cases htext with
  | array => cases h
  | object => cases h
  | @scalar text more v here =>
    cases v with
    | number m =>
      cases m with
      | int i =>
        dsimp only at h
        split_ifs at h with hfits
        cases h
        obtain ⟨hnumeral, hvalue⟩ := numeral_of_scalarText here hfits.1
        refine ⟨ws, text, hws, ⟨hnumeral, ?_, ?_⟩, rfl⟩
        · omega
        · rw [← Nat.one_shiftLeft]
          exact hfits.2
      | float x => cases h
    | _ => cases h

theorem readsAll_readUnsigned {bits : Nat} (hbits : bits ≤ 64) :
    ReadsAll (readUnsigned bits) (NaturalText bits) := by
  intro ws text n rest hws h hrest
  have hfits : 0 ≤ (n : Int) ∧ (n : Int).toNat < 1 <<< bits :=
    ⟨Int.natCast_nonneg n, (Nat.one_shiftLeft bits).symm ▸ h.fits⟩
  simp only [readUnsigned, readStart_scalar hws (h.scalarText hbits) hrest, bind, Except.bind,
    if_pos hfits]
  rfl

end ControlPlane.Json
