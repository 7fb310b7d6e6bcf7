import ControlPlane.Json.Reader

/-!
# Reading tokens that were written

Blanks, the marks between items, strings and whole numbers: what the printer writes for them is
read back as what it was written for, whatever follows, and the reader stops where the token ends.

## Main definitions

- `Json.EndsNumber`: a text that does not go on with a number in front of it.

## Main statements

- `Json.scanString_escaped`: a string between quotes is read back.
- `Json.scanNumberValue_printNat`, `Json.scanNumberValue_printNat_neg`: a number that fits 64 bits
  is read back.
-/

namespace ControlPlane.Json

variable {b c : UInt8} {rest : List UInt8}

/-! ## Blanks and the marks between items -/

theorem skipBlanks_cons (h : isBlankOctet b = false) : skipBlanks (b :: rest) = b :: rest :=
  List.dropWhile_cons_of_neg (by rw [h]; exact Bool.false_ne_true)

/-- A bracket closes. -/
theorem nextEntry_close (first : Bool) (h : isBlankOctet c = false) :
    nextEntry c first (c :: rest) = .ok (.done rest) := by
  simp only [nextEntry, skipBlanks_cons h, if_true]

/-- The first item follows an opening bracket. -/
theorem nextEntry_first (h : isBlankOctet b = false) (hb : b ≠ c) :
    nextEntry c true (b :: rest) = .ok (.more (b :: rest)) := by
  simp only [nextEntry, skipBlanks_cons h, if_neg hb, if_true]

/-- Any other item follows a comma. -/
theorem nextEntry_comma (hc : c ≠ ascii ',') (h : isBlankOctet b = false) (hb : b ≠ c) :
    nextEntry c false (ascii ',' :: b :: rest) = .ok (.more (b :: rest)) := by
  have hcomma : isBlankOctet (ascii ',') = false := by decide
  simp only [nextEntry, skipBlanks_cons hcomma, skipBlanks_cons h, if_neg hc.symm, if_neg hb,
    if_true, Bool.false_eq_true, if_false]

theorem readColon_cons : readColon (ascii ':' :: rest) = .ok rest := by
  have hcolon : isBlankOctet (ascii ':') = false := by decide
  simp only [readColon, skipBlanks_cons hcolon, if_true]

/-! ## Strings -/

/-- An escape of one letter. -/
theorem stringOctets_short (h : shortEscape? b = some c) :
    stringOctets .plain (ascii '\\' :: b :: rest) = emit [c] (stringOctets .plain rest) := by
  have hquote : ascii '\\' ≠ ascii '"' := by decide
  rw [stringOctets, if_neg hquote, if_pos rfl, stringOctets, h]

/-- An escape of four hexadecimal digits. -/
theorem stringOctets_unit {w x y z : UInt8} {u : Nat} {octets : List UInt8}
    (h : codeUnit? w x y z = some u) (hu : unitResult none u = .character octets)
    (rest : List UInt8) :
    stringOctets .plain (ascii '\\' :: ascii 'u' :: w :: x :: y :: z :: rest) =
      emit octets (stringOctets .plain rest) := by
  have hquote : ascii '\\' ≠ ascii '"' := by decide
  have hshort : shortEscape? (ascii 'u') = none := by decide
  rw [stringOctets, if_neg hquote, if_pos rfl, stringOctets, hshort]
  simp only [if_true, stringOctets, h, hu]

/-- An octet that stands for itself. -/
theorem stringOctets_plain (hquote : b ≠ ascii '"') (hslash : b ≠ ascii '\\') (hvisible : ¬b < 32) :
    stringOctets .plain (b :: rest) = emit [b] (stringOctets .plain rest) := by
  rw [stringOctets, if_neg hquote, if_neg hslash, if_neg hvisible]

/-- Two hexadecimal digits after two zeros are a control character. -/
theorem codeUnit?_control : ∀ n < 32,
    codeUnit? (ascii '0') (ascii '0') (ascii (Text.hexDigit (n / 16)))
      (ascii (Text.hexDigit (n % 16))) = some n := by
  decide

theorem utf8Char_control : ∀ n < 32, Text.utf8Char (Char.ofNat n) = [UInt8.ofNat n] := by
  decide

theorem unitResult_control {n : Nat} (h : n < 32) :
    unitResult none n = .character [UInt8.ofNat n] := by
  have hlow : isLowHalf n = false := by
    rw [isLowHalf, Bool.and_eq_false_iff, decide_eq_false_iff_not]
    omega
  have hhigh : isHighHalf n = false := by
    rw [isHighHalf, Bool.and_eq_false_iff, decide_eq_false_iff_not]
    omega
  simp only [unitResult, hlow, hhigh, Bool.false_eq_true, if_false, utf8Char_control n h]

/-- Whatever octet is written inside a string is read back. -/
theorem stringOctets_escapeOctet (b : UInt8) (rest : List UInt8) :
    stringOctets .plain (escapeOctet b ++ rest) = emit [b] (stringOctets .plain rest) := by
  unfold escapeOctet
  -- Seven octets have an escape of one letter.
  iterate 7
    split
    · next h =>
      subst h
      exact stringOctets_short (by decide)
  split
  · next h =>
    have hcontrol : b.toNat < 32 := h
    have hunit := stringOctets_unit (codeUnit?_control b.toNat hcontrol)
      (unitResult_control hcontrol) rest
    rw [UInt8.ofNat_toNat] at hunit
    exact hunit
  · next hquote hslash _ _ _ _ _ hvisible => exact stringOctets_plain hquote hslash hvisible

/-- Octets are read back up to the closing quote. -/
theorem stringOctets_escaped (octets rest : List UInt8) :
    stringOctets .plain (octets.flatMap escapeOctet ++ ascii '"' :: rest) = .ok (octets, rest) := by
  induction octets with
  | nil => rw [List.flatMap_nil, List.nil_append, stringOctets, if_pos rfl]
  | cons b octets ih =>
    rw [List.flatMap_cons, List.append_assoc, stringOctets_escapeOctet, ih]
    rfl

/-- A text is read back up to its closing quote. -/
theorem scanString_escaped (s : String) (rest : List UInt8) :
    scanString ((Text.utf8 s).flatMap escapeOctet ++ ascii '"' :: rest) = .ok (s, rest) := by
  simp only [scanString, stringOctets_escaped, Text.ofUtf8?_utf8]

/-! ## Whole numbers -/

/-- A text that does not go on with a number in front of it. -/
def EndsNumber (rest : List UInt8) : Prop :=
  ∀ b ∈ rest.head?, isDigitOctet b = false ∧ b ≠ ascii '.' ∧ b ≠ ascii 'e' ∧ b ≠ ascii 'E'

theorem endsNumber_comma : EndsNumber (ascii ',' :: rest) := by
  rintro b ⟨⟩
  decide

theorem endsNumber_bracket : EndsNumber (ascii ']' :: rest) := by
  rintro b ⟨⟩
  decide

theorem endsNumber_brace : EndsNumber (ascii '\x7d' :: rest) := by
  rintro b ⟨⟩
  decide

theorem toNat_ascii {d : Char} (h : d.isDigit = true) : (ascii d).toNat = d.toNat := by
  have hle : d.toNat ≤ 57 := (Char.isDigit_iff_toNat.1 h).2
  simp only [ascii, UInt8.toNat_ofNat']
  omega

theorem isDigitOctet_ascii {d : Char} (h : d.isDigit = true) : isDigitOctet (ascii d) = true := by
  have hd := toNat_ascii h
  simp only [Char.isDigit, Bool.and_eq_true, decide_eq_true_eq] at h
  simp only [isDigitOctet, Bool.and_eq_true, decide_eq_true_eq, UInt8.le_iff_toNat_le, hd]
  exact h

theorem ne_of_isDigitOctet (hb : isDigitOctet b = true) (hc : isDigitOctet c = false) : b ≠ c := by
  rintro rfl
  exact Bool.false_ne_true (hc.symm.trans hb)

/-- Octets of digits denote what the digits do. -/
theorem digitsValue_asciiList {ds : List Char} (h : ∀ d ∈ ds, d.isDigit = true) :
    digitsValue (asciiList ds) = Nat.ofDigitChars 10 ds 0 := by
  have hfrom : ∀ n, (asciiList ds).foldl (fun n b => 10 * n + (b.toNat - 48)) n =
      Nat.ofDigitChars 10 ds n := by
    induction ds with
    | nil => exact fun n => rfl
    | cons d ds ih =>
      intro n
      obtain ⟨hd, hds⟩ := List.forall_mem_cons.1 h
      rw [Nat.ofDigitChars_cons, ← ih hds, asciiList, List.map_cons, List.foldl_cons,
        toNat_ascii hd]
      rfl
  exact hfrom 0

theorem isDigit_of_mem_toDigits {n : Nat} {d : Char} (h : d ∈ Nat.toDigits 10 n) :
    d.isDigit = true :=
  Nat.isDigit_of_mem_toDigits (by decide) (by decide) h

theorem digitsValue_printNat (n : Nat) : digitsValue (printNat n) = n :=
  (digitsValue_asciiList fun _ h => isDigit_of_mem_toDigits h).trans Nat.ofDigitChars_ten_toDigits

theorem isDigitOctet_of_mem_printNat {n : Nat} (h : b ∈ printNat n) : isDigitOctet b = true := by
  obtain ⟨d, hd, rfl⟩ := List.mem_map.1 h
  exact isDigitOctet_ascii (isDigit_of_mem_toDigits hd)

theorem printNat_ne_nil (n : Nat) : printNat n ≠ [] := by
  rw [printNat, asciiList, Ne, List.map_eq_nil_iff]
  exact Nat.toDigits_ne_nil

/-- The digits of a number that is not zero do not start with a zero. -/
theorem head?_toDigits_ne {n : Nat} (h : 0 < n) : (Nat.toDigits 10 n).head? ≠ some '0' := by
  induction n using Nat.strongRecOn with
  | ind n ih =>
    rcases Nat.lt_or_ge n 10 with hlt | hge
    · have hdigits : ∀ m < 10, 0 < m → [Nat.digitChar m].head? ≠ some '0' := by decide
      rw [Nat.toDigits_of_lt_base hlt]
      exact hdigits n hlt h
    · rw [Nat.toDigits_of_base_le (by decide) hge, List.head?_append,
        Option.or_of_isSome (List.isSome_head?.2 Nat.toDigits_ne_nil)]
      exact ih (n / 10) (by omega) (by omega)

/-- Digits are read up to the first octet that is none. -/
theorem scanDigits_append {ds : List UInt8} (cut : Fault) (hne : ds ≠ [])
    (hds : ∀ d ∈ ds, isDigitOctet d = true)
    (hrest : ∀ b ∈ rest.head?, isDigitOctet b = false) :
    scanDigits cut (ds ++ rest) = .ok (ds, rest) := by
  have hstop : rest.takeWhile isDigitOctet = [] ∧ rest.dropWhile isDigitOctet = rest := by
    cases rest with
    | nil => exact ⟨rfl, rfl⟩
    | cons b more =>
      have hb : isDigitOctet b = false := hrest b rfl
      simp [hb]
  have htake : (ds ++ rest).takeWhile isDigitOctet = ds := by
    rw [List.takeWhile_append_of_pos hds, hstop.1, List.append_nil]
  have hdrop : (ds ++ rest).dropWhile isDigitOctet = rest := by
    rw [List.dropWhile_append_of_pos hds, hstop.2]
  obtain ⟨d, more, rfl⟩ := List.exists_cons_of_ne_nil hne
  simp only [scanDigits, htake, hdrop]

/-- The digits of a natural number are the whole part of a number. -/
theorem scanWhole_printNat (cut : Fault) (n : Nat) (hrest : EndsNumber rest) :
    scanWhole cut (printNat n ++ rest) = .ok (printNat n, rest) := by
  have hdigits : scanDigits cut (printNat n ++ rest) = .ok (printNat n, rest) :=
    scanDigits_append cut (printNat_ne_nil n) (fun d hd => isDigitOctet_of_mem_printNat hd)
      fun b hb => (hrest b hb).1
  simp only [scanWhole, hdigits]
  rw [if_neg]
  rintro ⟨hzero, hlength⟩
  rcases Nat.eq_zero_or_pos n with rfl | hn
  · exact hlength rfl
  · rw [printNat, asciiList, List.head?_map, Option.map_eq_some_iff] at hzero
    obtain ⟨d, hd, hascii⟩ := hzero
    have hdigit : d.isDigit = true := isDigit_of_mem_toDigits (List.mem_of_mem_head? hd)
    have hnat : d.toNat = '0'.toNat :=
      (toNat_ascii hdigit).symm.trans (congrArg UInt8.toNat hascii)
    exact head?_toDigits_ne hn (Char.toNat_inj.1 hnat ▸ hd)

theorem scanFraction_none (cut : Fault) (hrest : EndsNumber rest) :
    scanFraction cut rest = .ok (none, rest) := by
  cases rest with
  | nil => rfl
  | cons b more => rw [scanFraction, if_neg (hrest b rfl).2.1]

theorem scanExponent_none (cut : Fault) (hrest : EndsNumber rest) :
    scanExponent cut rest = .ok (none, rest) := by
  cases rest with
  | nil => rfl
  | cons b more =>
    obtain ⟨-, -, he, hE⟩ := hrest b rfl
    simp only [scanExponent, he, hE, or_self, if_false]

/-- The digits of a natural number are a number without fraction and exponent. -/
theorem scanNumber_printNat (cut : Fault) (negative : Bool) (n : Nat) (hrest : EndsNumber rest) :
    scanNumber cut negative (printNat n ++ rest) =
      .ok (⟨negative, printNat n, none, none⟩, rest) := by
  simp only [scanNumber, scanWhole_printNat cut n hrest, scanFraction_none cut hrest,
    scanExponent_none cut hrest, bind, Except.bind, pure, Except.pure]

/-- A number from zero on that fits 64 bits is read back. -/
theorem scanNumberValue_printNat {n : Nat} (hn : n < UInt64.size) (hrest : EndsNumber rest) :
    scanNumberValue false (printNat n ++ rest) = .ok (.int n, rest) := by
  simp only [scanNumberValue, scanNumber_printNat _ _ n hrest, NumberText.value?,
    digitsValue_printNat, if_pos hn, Bool.false_eq_true, if_false]

/-- A number below zero that fits 64 bits is read back. -/
theorem scanNumberValue_printNat_neg {n : Nat} (hpos : 0 < n) (hn : n ≤ 1 <<< 63)
    (hrest : EndsNumber rest) :
    scanNumberValue true (printNat n ++ rest) = .ok (.int (-n), rest) := by
  simp only [scanNumberValue, scanNumber_printNat _ _ n hrest, NumberText.value?,
    digitsValue_printNat, if_pos (And.intro hpos hn), if_true]

end ControlPlane.Json
