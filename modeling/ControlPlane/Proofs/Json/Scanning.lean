import ControlPlane.Proofs.Json.Grammar
import ControlPlane.Proofs.Json.RoundTrip

/-!
# Reading the tokens of any text

What the reader takes from the front of a text is a token of the grammar, and every token of the
grammar is read as what it is a text of. A string ends at its quote and a bracket at its mark,
whatever follows; a number is read to its end, so nothing may follow that would go on with it.

## Main statements

- `Json.nextEntry_lead`, `Json.exists_of_nextEntry_more`: what stands in front of an entry.
- `Json.scanString_spelled`, `Json.exists_of_scanString`: strings.
- `Json.skipString_passes`, `Json.exists_of_skipString`: strings that are passed over.
- `Json.scanNumber_magnitude`, `Json.magnitude_of_scanNumber`: numbers.
-/

namespace ControlPlane.Json

variable {b c close : UInt8} {input rest ws ws' raw octets : List UInt8} {first : Bool} {cut : Fault}

/-! ## Blanks and the marks between items -/

theorem skipBlanks_append (hws : Blanks ws) (hb : isBlankOctet b = false) :
    skipBlanks (ws ++ b :: rest) = b :: rest := by
  rw [skipBlanks, List.dropWhile_append_of_pos hws]
  exact skipBlanks_cons hb

theorem exists_of_skipBlanks (h : skipBlanks input = rest) :
    ∃ ws, Blanks ws ∧ input = ws ++ rest :=
  ⟨input.takeWhile isBlankOctet, List.all_eq_true.1 List.all_takeWhile,
    h ▸ List.takeWhile_append_dropWhile.symm⟩

theorem nextEntry_end (hws : Blanks ws) (hclose : isBlankOctet close = false) :
    nextEntry close first (ws ++ close :: rest) = .ok (.done rest) := by
  simp only [nextEntry, skipBlanks_append hws hclose, if_true]

theorem nextEntry_lead {lead : List UInt8} (hcomma : close ≠ ascii ',') (hlead : Lead first lead)
    (hb : isBlankOctet b = false) (hne : b ≠ close) :
    nextEntry close first (lead ++ b :: rest) = .ok (.more (b :: rest)) := by
  cases hlead with
  | first blanks => simp only [nextEntry, skipBlanks_append blanks hb, if_neg hne, if_true]
  | next blanks blanks' =>
    have hblank : isBlankOctet (ascii ',') = false := by decide
    simp only [List.append_assoc, List.cons_append, nextEntry, skipBlanks_append blanks hblank,
      skipBlanks_append blanks' hb, if_neg hcomma.symm, if_neg hne, if_true, Bool.false_eq_true,
      if_false]

theorem exists_of_nextEntry_done (h : nextEntry close first input = .ok (.done rest)) :
    ∃ ws, Blanks ws ∧ input = ws ++ close :: rest := by
  rw [nextEntry] at h
  split at h
  · cases h
  · next b more hskip =>
    split at h
    · next hb =>
      cases h
      exact hb ▸ exists_of_skipBlanks hskip
    · split at h
      · cases h
      · split at h
        · split at h
          · cases h
          · split at h <;> cases h
        · cases h

theorem exists_of_nextEntry_more (h : nextEntry close first input = .ok (.more rest)) :
    ∃ lead, Lead first lead ∧ input = lead ++ rest := by
  rw [nextEntry] at h
  split at h
  · cases h
  · next b more hskip =>
    obtain ⟨ws, hws, rfl⟩ := exists_of_skipBlanks hskip
    split at h
    · cases h
    · split at h
      · next hfirst =>
        cases h
        exact ⟨ws, hfirst ▸ .first hws, rfl⟩
      · next hfirst =>
        split at h
        · next hcomma =>
          split at h
          · cases h
          · next c more' hskip' =>
            obtain ⟨ws', hws', rfl⟩ := exists_of_skipBlanks hskip'
            split at h
            · cases h
            · cases h
              obtain rfl : first = false := Bool.eq_false_iff.2 hfirst
              refine ⟨_, .next hws hws', ?_⟩
              rw [hcomma, List.append_assoc, List.cons_append]
        · cases h

theorem readColon_append (hws : Blanks ws) : readColon (ws ++ ascii ':' :: rest) = .ok rest := by
  have hcolon : isBlankOctet (ascii ':') = false := by decide
  simp only [readColon, skipBlanks_append hws hcolon, if_true]

theorem exists_of_readColon (h : readColon input = .ok rest) :
    ∃ ws, Blanks ws ∧ input = ws ++ ascii ':' :: rest := by
  rw [readColon] at h
  split at h
  · cases h
  · next hskip =>
    split at h
    · next hb =>
      cases h
      exact hb ▸ exists_of_skipBlanks hskip
    · cases h

theorem eq_append_of_scanWord {word : List UInt8} (h : scanWord word input = .ok rest) :
    input = word ++ rest := by
  induction word generalizing input with
  | nil => exact Except.ok.inj h
  | cons w word ih =>
    cases input with
    | nil => cases h
    | cons b input =>
      rw [scanWord] at h
      split at h
      · next hb => rw [hb, ih h, List.cons_append]
      · cases h

/-! ## Strings -/

theorem exists_of_emit {scanned : Except Fault (List UInt8 × List UInt8)}
    (h : emit octets scanned = .ok (raw, rest)) :
    ∃ more, scanned = .ok (more, rest) ∧ raw = octets ++ more := by
  cases scanned with
  | error e => cases h
  | ok p =>
    cases h
    exact ⟨p.1, rfl, rfl⟩

/-- A code unit is a character, or the first half of one, or it should not stand here. -/
theorem unitResult_none_cases (u : Nat) :
    (isHighHalf u = false ∧ isLowHalf u = false ∧
      unitResult none u = .character (Text.utf8Char (Char.ofNat u))) ∨
      (isHighHalf u = true ∧ unitResult none u = .half u) ∨ unitResult none u = .unpaired := by
  cases hlow : isLowHalf u with
  | true => exact .inr (.inr (if_pos hlow))
  | false =>
    have hnone : unitResult none u =
        if isHighHalf u then .half u else .character (Text.utf8Char (Char.ofNat u)) :=
      if_neg (Bool.eq_false_iff.1 hlow)
    cases hhigh : isHighHalf u with
    | true => exact .inr (.inl ⟨rfl, hnone.trans (if_pos hhigh)⟩)
    | false => exact .inl ⟨rfl, rfl, hnone.trans (if_neg (Bool.eq_false_iff.1 hhigh))⟩

theorem unitResult_some_cases (high u : Nat) :
    (isLowHalf u = true ∧
      unitResult (some high) u = .character (Text.utf8Char (Char.ofNat (pairPoint high u)))) ∨
      unitResult (some high) u = .unpaired := by
  cases hlow : isLowHalf u with
  | true => exact .inl ⟨rfl, if_pos hlow⟩
  | false => exact .inr (if_neg (Bool.eq_false_iff.1 hlow))

/-- A first half waits for a second one, and the two are a character. -/
theorem stringOctets_pair {w x y z w' x' y' z' : UInt8} {u u' : Nat}
    (value : codeUnit? w x y z = some u) (high : isHighHalf u = true)
    (value' : codeUnit? w' x' y' z' = some u') (low : isLowHalf u' = true) (rest : List UInt8) :
    stringOctets .plain (unitEscape w x y z ++ (unitEscape w' x' y' z' ++ rest)) =
      emit (Text.utf8Char (Char.ofNat (pairPoint u u'))) (stringOctets .plain rest) := by
  have hquote : ascii '\\' ≠ ascii '"' := by decide
  have hshort : shortEscape? (ascii 'u') = none := by decide
  have hlow : isLowHalf u = false := by
    simp only [isHighHalf, Bool.and_eq_true, decide_eq_true_eq] at high
    simp only [isLowHalf, Bool.and_eq_false_iff, decide_eq_false_iff_not]
    omega
  have hfirst : unitResult none u = .half u := by
    simp only [unitResult, hlow, high, Bool.false_eq_true, if_false, if_true]
  have hsecond : unitResult (some u) u' =
      .character (Text.utf8Char (Char.ofNat (pairPoint u u'))) := by
    simp only [unitResult, low, if_true]
  simp only [unitEscape, List.cons_append, List.nil_append, stringOctets, hquote, hshort, if_false,
    if_true, value, value', hfirst, hsecond]

/-- What is spelled is read up to the closing quote. -/
theorem stringOctets_spelled (h : Spells raw octets) (rest : List UInt8) :
    stringOctets .plain (raw ++ ascii '"' :: rest) = .ok (octets, rest) := by
  induction h with
  | nil => rw [List.nil_append, stringOctets, if_pos rfl]
  | plain quote slash visible _ ih =>
    rw [List.cons_append, stringOctets_plain quote slash visible, ih]
    rfl
  | short letter _ ih =>
    rw [List.cons_append, List.cons_append, stringOctets_short letter, ih]
    rfl
  | @unit w x y z u raw octets value high low _ ih =>
    have hunit : unitResult none u = .character (Text.utf8Char (Char.ofNat u)) := by
      simp only [unitResult, low, high, Bool.false_eq_true, if_false]
    have hread := stringOctets_unit value hunit (raw ++ ascii '"' :: rest)
    rw [ih] at hread
    rw [List.append_assoc]
    exact hread
  | pair value high value' low _ ih =>
    rw [List.append_assoc, List.append_assoc, stringOctets_pair value high value' low, ih]
    rfl

theorem scanString_spelled {s : String} (h : SpellsText raw s) (rest : List UInt8) :
    scanString (raw ++ ascii '"' :: rest) = .ok (s, rest) := by
  simp only [scanString, stringOctets_spelled h rest, Text.ofUtf8?_utf8]

/-- Four digits follow the mark of a code unit. -/
theorem exists_of_digits {high : Option Nat} {r : List UInt8 × List UInt8}
    (h : stringOctets (.digits high []) input = .ok r) :
    ∃ w x y z more u, input = w :: x :: y :: z :: more ∧ codeUnit? w x y z = some u ∧
      (match unitResult high u with
        | .character octets => emit octets (stringOctets .plain more)
        | .half h => stringOctets (.afterHigh h) more
        | .unpaired => .error .malformed) = .ok r := by
  rcases input with _ | ⟨w, _ | ⟨x, _ | ⟨y, _ | ⟨z, more⟩⟩⟩⟩
  · cases h
  · cases h
  · cases h
  · cases h
  · simp only [stringOctets] at h
    split at h
    · cases h
    · next u hu => exact ⟨w, x, y, z, more, u, rfl, hu, h⟩

/-- After a first half, an escape with a second half follows. -/
theorem exists_of_afterHigh {high : Nat} {r : List UInt8 × List UInt8}
    (h : stringOctets (.afterHigh high) input = .ok r) :
    ∃ w x y z more u, input = unitEscape w x y z ++ more ∧ codeUnit? w x y z = some u ∧
      isLowHalf u = true ∧
      emit (Text.utf8Char (Char.ofNat (pairPoint high u))) (stringOctets .plain more) = .ok r := by
  rcases input with _ | ⟨b, _ | ⟨c, input⟩⟩
  · cases h
  · rw [stringOctets] at h
    split at h <;> cases h
  · rw [stringOctets] at h
    split at h
    · next hb =>
      rw [stringOctets] at h
      split at h
      · next hc =>
        obtain ⟨w, x, y, z, more, u, rfl, hu, h⟩ := exists_of_digits h
        rcases unitResult_some_cases high u with ⟨hlow, hresult⟩ | hresult
        · simp only [hresult] at h
          exact ⟨w, x, y, z, more, u, by rw [hb, hc]; rfl, hu, hlow, h⟩
        · simp only [hresult, reduceCtorEq] at h
      · cases h
    · cases h

/-- What stands behind a backslash completes a character. -/
theorem exists_of_escape (h : stringOctets .escape input = .ok (octets, rest)) :
    ∃ front more octets', input = front ++ more ∧ stringOctets .plain more = .ok (octets', rest) ∧
      ∀ raw, Spells raw octets' → Spells (ascii '\\' :: (front ++ raw)) octets := by
  cases input with
  | nil => cases h
  | cons c input =>
    rw [stringOctets] at h
    split at h
    · next d hd =>
      obtain ⟨octets', hmore, rfl⟩ := exists_of_emit h
      exact ⟨[c], input, octets', rfl, hmore, fun raw hraw => .short hd hraw⟩
    · split at h
      · next hc =>
        subst hc
        obtain ⟨w, x, y, z, more, u, rfl, hu, h⟩ := exists_of_digits h
        rcases unitResult_none_cases u with ⟨hhigh, hlow, hresult⟩ | ⟨hhigh, hresult⟩ | hresult
        · simp only [hresult] at h
          obtain ⟨octets', hmore, rfl⟩ := exists_of_emit h
          exact ⟨[ascii 'u', w, x, y, z], more, octets', rfl, hmore,
            fun raw hraw => .unit hu hhigh hlow hraw⟩
        · simp only [hresult] at h
          obtain ⟨w', x', y', z', more, u', rfl, hu', hlow, h⟩ := exists_of_afterHigh h
          obtain ⟨octets', hmore, hoctets⟩ := exists_of_emit h
          refine ⟨ascii 'u' :: w :: x :: y :: z :: unitEscape w' x' y' z', more, octets', rfl, hmore,
            fun raw hraw => ?_⟩
          rw [hoctets]
          exact .pair hu hhigh hu' hlow hraw
        · simp only [hresult, reduceCtorEq] at h
      · cases h

/-- What is read up to a closing quote is spelled. -/
theorem exists_of_stringOctets (h : stringOctets .plain input = .ok (octets, rest)) :
    ∃ raw, Spells raw octets ∧ input = raw ++ ascii '"' :: rest := by
  -- A character takes one octet or many, so the length of the text carries the induction.
  induction hlength : input.length using Nat.strongRecOn generalizing input octets with
  | ind n ih =>
    subst hlength
    cases input with
    | nil => cases h
    | cons b input =>
      rw [stringOctets] at h
      split at h
      · next hquote =>
        cases h
        exact ⟨[], .nil, by rw [hquote, List.nil_append]⟩
      · next hquote =>
        split at h
        · next hslash =>
          obtain ⟨front, more, octets', rfl, hmore, hspells⟩ := exists_of_escape h
          have hshorter : more.length < (b :: (front ++ more)).length := by
            simp only [List.length_cons, List.length_append]
            omega
          obtain ⟨raw, hraw, rfl⟩ := ih _ hshorter hmore rfl
          refine ⟨_, hspells raw hraw, ?_⟩
          rw [hslash, List.cons_append, List.append_assoc]
        · next hslash =>
          split at h
          · cases h
          · next hvisible =>
            obtain ⟨more, hmore, rfl⟩ := exists_of_emit h
            obtain ⟨raw, hraw, rfl⟩ := ih _ (Nat.lt_succ_self _) hmore rfl
            exact ⟨_, .plain hquote hslash hvisible hraw, rfl⟩

theorem utf8_of_ofUtf8? {s : String} (h : Text.ofUtf8? octets = some s) : Text.utf8 s = octets := by
  rw [Text.ofUtf8?, String.fromUTF8?] at h
  split at h
  · cases h
    rfl
  · cases h

theorem exists_of_scanString {s : String} (h : scanString input = .ok (s, rest)) :
    ∃ raw, SpellsText raw s ∧ input = raw ++ ascii '"' :: rest := by
  rw [scanString] at h
  split at h
  · cases h
  · next octets more hoctets =>
    split at h
    · next s hs =>
      cases h
      obtain ⟨raw, hraw, hinput⟩ := exists_of_stringOctets hoctets
      rw [← utf8_of_ofUtf8? hs] at hraw
      exact ⟨raw, hraw, hinput⟩
    · cases h

/-! ## Strings that are passed over -/

theorem skipString_passes (h : Passes raw) (rest : List UInt8) :
    skipString (raw ++ ascii '"' :: rest) = .ok rest := by
  have hquote : ascii '\\' ≠ ascii '"' := by decide
  have hshort : shortEscape? (ascii 'u') = none := by decide
  rw [skipString]
  induction h with
  | nil => rw [List.nil_append, skipStringFrom, if_pos rfl]
  | plain quote slash visible _ ih =>
    rw [List.cons_append, skipStringFrom, if_neg quote, if_neg slash, if_neg visible, ih]
  | short letter _ ih =>
    rw [List.cons_append, List.cons_append, skipStringFrom, if_neg hquote, if_pos rfl,
      skipStringFrom, if_pos letter, ih]
  | unit value _ ih =>
    simp only [unitEscape, List.cons_append, List.nil_append, skipStringFrom, hquote, hshort,
      Option.isSome_none, Bool.false_eq_true, if_false, if_true, value, ih]

/-- Four digits follow the mark of a code unit. -/
theorem exists_of_owed {mark : UInt8} (h : skipStringFrom false [mark] input = .ok rest) :
    ∃ w x y z more, input = w :: x :: y :: z :: more ∧ (codeUnit? w x y z).isSome ∧
      skipString more = .ok rest := by
  rcases input with _ | ⟨w, _ | ⟨x, _ | ⟨y, _ | ⟨z, more⟩⟩⟩⟩
  · cases h
  · cases h
  · cases h
  · cases h
  · simp only [skipStringFrom] at h
    split at h
    · next hu => exact ⟨w, x, y, z, more, rfl, hu, h⟩
    · cases h

/-- What stands behind a backslash completes a character that is passed over. -/
theorem exists_of_skipEscape (h : skipStringFrom true [] input = .ok rest) :
    ∃ front more, input = front ++ more ∧ skipString more = .ok rest ∧
      ∀ raw, Passes raw → Passes (ascii '\\' :: (front ++ raw)) := by
  cases input with
  | nil => cases h
  | cons c input =>
    rw [skipStringFrom] at h
    split at h
    · next hc => exact ⟨[c], input, rfl, h, fun raw hraw => .short hc hraw⟩
    · split at h
      · next hc =>
        subst hc
        obtain ⟨w, x, y, z, more, rfl, hu, h⟩ := exists_of_owed h
        exact ⟨[ascii 'u', w, x, y, z], more, rfl, h, fun raw hraw => .unit hu hraw⟩
      · cases h

theorem exists_of_skipString (h : skipString input = .ok rest) :
    ∃ raw, Passes raw ∧ input = raw ++ ascii '"' :: rest := by
  induction hlength : input.length using Nat.strongRecOn generalizing input with
  | ind n ih =>
    subst hlength
    cases input with
    | nil => cases h
    | cons b input =>
      rw [skipString, skipStringFrom] at h
      split at h
      · next hquote =>
        cases h
        exact ⟨[], .nil, by rw [hquote, List.nil_append]⟩
      · next hquote =>
        split at h
        · next hslash =>
          obtain ⟨front, more, rfl, hmore, hpasses⟩ := exists_of_skipEscape h
          have hshorter : more.length < (b :: (front ++ more)).length := by
            simp only [List.length_cons, List.length_append]
            omega
          obtain ⟨raw, hraw, rfl⟩ := ih _ hshorter hmore rfl
          refine ⟨_, hpasses raw hraw, ?_⟩
          rw [hslash, List.cons_append, List.append_assoc]
        · next hslash =>
          split at h
          · cases h
          · next hvisible =>
            obtain ⟨raw, hraw, rfl⟩ := ih _ (Nat.lt_succ_self _) h rfl
            exact ⟨_, .plain hquote hslash hvisible hraw, rfl⟩

/-! ## Numbers -/

theorem scanDigits_digits {ds : List UInt8} (h : Digits ds)
    (hrest : ∀ b ∈ rest.head?, isDigitOctet b = false) :
    scanDigits cut (ds ++ rest) = .ok (ds, rest) :=
  scanDigits_append cut h.nonempty h.digits hrest

theorem digits_of_scanDigits {ds : List UInt8} (h : scanDigits cut input = .ok (ds, rest)) :
    Digits ds ∧ input = ds ++ rest := by
  unfold scanDigits at h
  split at h
  · cases h
  · cases h
  · next hnil hcons =>
    cases h
    refine ⟨⟨fun hds => ?_, List.all_eq_true.1 List.all_takeWhile⟩,
      List.takeWhile_append_dropWhile.symm⟩
    obtain ⟨b, more, hinput⟩ := List.exists_cons_of_ne_nil (hnil hds)
    exact hcons b more hds hinput

theorem scanWhole_numeral {ds : List UInt8} (h : Numeral ds)
    (hrest : ∀ b ∈ rest.head?, isDigitOctet b = false) :
    scanWhole cut (ds ++ rest) = .ok (ds, rest) := by
  simp only [scanWhole, scanDigits_digits h.toDigits hrest]
  exact if_neg fun hzero => hzero.2 (h.head hzero.1)

theorem numeral_of_scanWhole {ds : List UInt8} (h : scanWhole cut input = .ok (ds, rest)) :
    Numeral ds ∧ input = ds ++ rest := by
  rw [scanWhole] at h
  split at h
  · cases h
  · next hscan =>
    split at h
    · cases h
    · next hzero =>
      cases h
      obtain ⟨hds, hinput⟩ := digits_of_scanDigits hscan
      exact ⟨⟨hds, fun hhead => not_not.1 fun hlength => hzero ⟨hhead, hlength⟩⟩, hinput⟩

theorem scanFraction_text {fs : List UInt8} {f : Option (List UInt8)} (h : FractionText fs f)
    (hrest : ∀ b ∈ rest.head?, isDigitOctet b = false ∧ b ≠ ascii '.') :
    scanFraction cut (fs ++ rest) = .ok (f, rest) := by
  cases h with
  | none =>
    cases rest with
    | nil => rfl
    | cons b rest => exact if_neg (hrest b rfl).2
  | some digits =>
    rw [List.cons_append, scanFraction, if_pos rfl,
      scanDigits_digits digits fun b hb => (hrest b hb).1]
    rfl

theorem fractionText_of_scanFraction {f : Option (List UInt8)}
    (h : scanFraction cut input = .ok (f, rest)) :
    ∃ fs, FractionText fs f ∧ input = fs ++ rest := by
  cases input with
  | nil =>
    cases h
    exact ⟨[], .none, rfl⟩
  | cons b input =>
    rw [scanFraction] at h
    split at h
    · next hpoint =>
      obtain ⟨⟨ds, more⟩, hscan, hresult⟩ := exists_of_map_eq_ok h
      cases hresult
      obtain ⟨hds, rfl⟩ := digits_of_scanDigits hscan
      exact ⟨_, .some hds, by rw [hpoint, List.cons_append]⟩
    · cases h
      exact ⟨[], .none, rfl⟩

/-- The sign of an exponent, and what follows it. -/
def splitSign (input : List UInt8) : Bool × List UInt8 :=
  match input with
  | [] => (false, [])
  | s :: more =>
    if s = ascii '-' then (true, more) else if s = ascii '+' then (false, more) else (false, input)

theorem splitSign_text {s ds : List UInt8} {negative : Bool} (h : SignText s negative)
    (hds : Digits ds) (rest : List UInt8) :
    splitSign (s ++ (ds ++ rest)) = (negative, ds ++ rest) := by
  cases h with
  | none =>
    obtain ⟨d, ds', rfl⟩ := List.exists_cons_of_ne_nil hds.nonempty
    have hd : isDigitOctet d = true := hds.digits d List.mem_cons_self
    have hminus : d ≠ ascii '-' := ne_of_isDigitOctet hd (by decide)
    have hplus : d ≠ ascii '+' := ne_of_isDigitOctet hd (by decide)
    simp only [List.nil_append, List.cons_append, splitSign, hminus, hplus, if_false]
  | plus => rfl
  | minus => rfl

theorem signText_splitSign (input : List UInt8) :
    ∃ s, SignText s (splitSign input).1 ∧ input = s ++ (splitSign input).2 := by
  cases input with
  | nil => exact ⟨[], .none, rfl⟩
  | cons b input =>
    rw [splitSign]
    split_ifs with hminus hplus
    · exact ⟨_, .minus, by rw [hminus]; rfl⟩
    · exact ⟨_, .plus, by rw [hplus]; rfl⟩
    · exact ⟨[], .none, rfl⟩

theorem scanExponent_of_letter (hletter : b = ascii 'e' ∨ b = ascii 'E') :
    scanExponent cut (b :: rest) =
      (scanDigits cut (splitSign rest).2).map fun p => (some ((splitSign rest).1, p.1), p.2) :=
  if_pos hletter

theorem scanExponent_text {es : List UInt8} {e : Option (Bool × List UInt8)}
    (h : ExponentText es e) (hrest : EndsNumber rest) :
    scanExponent cut (es ++ rest) = .ok (e, rest) := by
  cases h with
  | none => exact scanExponent_none cut hrest
  | some letter sign digits =>
    rw [List.cons_append, List.append_assoc, scanExponent_of_letter letter,
      splitSign_text sign digits, scanDigits_digits digits fun b hb => (hrest b hb).1]
    rfl

theorem exponentText_of_scanExponent {e : Option (Bool × List UInt8)}
    (h : scanExponent cut input = .ok (e, rest)) :
    ∃ es, ExponentText es e ∧ input = es ++ rest := by
  cases input with
  | nil =>
    cases h
    exact ⟨[], .none, rfl⟩
  | cons b input =>
    by_cases hletter : b = ascii 'e' ∨ b = ascii 'E'
    · rw [scanExponent_of_letter hletter] at h
      obtain ⟨⟨ds, more⟩, hscan, hresult⟩ := exists_of_map_eq_ok h
      cases hresult
      obtain ⟨s, hsign, hinput⟩ := signText_splitSign input
      obtain ⟨hds, hsplit⟩ := digits_of_scanDigits hscan
      refine ⟨_, .some hletter hsign hds, ?_⟩
      rw [List.cons_append, List.append_assoc, ← hsplit, ← hinput]
    · cases h.symm.trans (if_neg hletter)
      exact ⟨[], .none, rfl⟩

/-- What follows the whole digits of a number is no digit. -/
theorem head?_fraction_append {fs es : List UInt8} {f : Option (List UInt8)}
    {e : Option (Bool × List UInt8)} (hf : FractionText fs f) (he : ExponentText es e)
    (hrest : EndsNumber rest) : ∀ b ∈ (fs ++ (es ++ rest)).head?, isDigitOctet b = false := by
  cases hf with
  | some digits =>
    rintro b ⟨⟩
    decide
  | none =>
    cases he with
    | none => exact fun b hb => (hrest b hb).1
    | some letter sign digits =>
      rintro b ⟨⟩
      rcases letter with rfl | rfl <;> decide

/-- What follows the fraction of a number is neither a digit nor a point. -/
theorem head?_exponent_append {es : List UInt8} {e : Option (Bool × List UInt8)}
    (he : ExponentText es e) (hrest : EndsNumber rest) :
    ∀ b ∈ (es ++ rest).head?, isDigitOctet b = false ∧ b ≠ ascii '.' := by
  cases he with
  | none => exact fun b hb => ⟨(hrest b hb).1, (hrest b hb).2.1⟩
  | some letter sign digits =>
    rintro b ⟨⟩
    rcases letter with rfl | rfl <;> decide

theorem scanNumber_magnitude {negative : Bool} {text : List UInt8} {t : NumberText}
    (h : Magnitude negative text t) (hrest : EndsNumber rest) :
    scanNumber cut negative (text ++ rest) = .ok (t, rest) := by
  cases h with
  | intro whole fraction exponent =>
    rw [List.append_assoc, List.append_assoc]
    simp only [scanNumber, scanWhole_numeral whole (head?_fraction_append fraction exponent hrest),
      scanFraction_text fraction (head?_exponent_append exponent hrest),
      scanExponent_text exponent hrest, bind, Except.bind, pure, Except.pure]

theorem magnitude_of_scanNumber {negative : Bool} {t : NumberText}
    (h : scanNumber cut negative input = .ok (t, rest)) :
    ∃ text, Magnitude negative text t ∧ input = text ++ rest := by
  obtain ⟨⟨ds, more⟩, hwhole, h⟩ := exists_of_bind_eq_ok h
  obtain ⟨⟨f, more⟩, hfraction, h⟩ := exists_of_bind_eq_ok h
  obtain ⟨⟨e, more⟩, hexponent, h⟩ := exists_of_bind_eq_ok h
  cases h
  obtain ⟨hds, rfl⟩ := numeral_of_scanWhole hwhole
  obtain ⟨fs, hfs, rfl⟩ := fractionText_of_scanFraction hfraction
  obtain ⟨es, hes, rfl⟩ := exponentText_of_scanExponent hexponent
  exact ⟨_, .intro hds hfs hes, by simp only [List.append_assoc]⟩

end ControlPlane.Json
