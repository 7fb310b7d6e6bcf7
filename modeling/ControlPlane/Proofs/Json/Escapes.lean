import ControlPlane.Proofs.Json.Fields

/-!
# Texts in ASCII

Every character of a string can be escaped, by one code unit or by two. So every string has a text,
and one of nothing but ASCII; and so have natural numbers, and lists of what has such texts.

## Main definitions

- `Json.Ascii`: octets that are ASCII.
- `Json.escapeChar`: the escape of a character.

## Main statements

- `Json.Ascii.exists_utf8`: octets that are ASCII form a text.
- `Json.Spells.char`: a character can be escaped.
- `Json.exists_stringText`, `Json.exists_naturalText`, `Json.exists_listText`: strings, natural
  numbers and lists have texts.
-/

namespace ControlPlane

namespace Json

/-- Nothing but ASCII. -/
def Ascii (octets : List UInt8) : Prop := ∀ b ∈ octets, b < 128

theorem Ascii.append {octets more : List UInt8} (h : Ascii octets) (hmore : Ascii more) :
    Ascii (octets ++ more) :=
  List.forall_mem_append.2 ⟨h, hmore⟩

theorem Ascii.cons {b : UInt8} {octets : List UInt8} (hb : b < 128) (h : Ascii octets) :
    Ascii (b :: octets) :=
  List.forall_mem_cons.2 ⟨hb, h⟩

theorem utf8Char_ascii : ∀ n < 128, Text.utf8Char (Char.ofNat n) = [UInt8.ofNat n] := by
  decide

theorem Ascii.exists_utf8 {octets : List UInt8} (h : Ascii octets) :
    ∃ s, Text.utf8 s = octets := by
  induction octets with
  | nil => exact ⟨"", rfl⟩
  | cons b octets ih =>
    obtain ⟨hb, hmore⟩ := List.forall_mem_cons.1 h
    obtain ⟨s, hs⟩ := ih hmore
    have hchar : Text.utf8Char (Char.ofNat b.toNat) = [b] := by
      rw [utf8Char_ascii b.toNat hb, UInt8.ofNat_toNat]
    refine ⟨.ofList (Char.ofNat b.toNat :: s.toList), ?_⟩
    rw [Text.utf8_ofList_cons, hchar, String.ofList_toList, hs, List.singleton_append]

/-! ## Escapes -/

/-- The last hexadecimal digit of a number. -/
def lastHex (n : Nat) : UInt8 := ascii (Text.hexDigit (n % 16))

theorem hexOctet?_lastHex (n : Nat) : hexOctet? (lastHex n) = some (n % 16) := by
  have hdigit : ∀ d < 16, hexOctet? (ascii (Text.hexDigit d)) = some d := by decide
  exact hdigit _ (Nat.mod_lt n (by decide))

theorem lastHex_lt (n : Nat) : lastHex n < 128 := by
  have hdigit : ∀ d < 16, ascii (Text.hexDigit d) < 128 := by decide
  exact hdigit _ (Nat.mod_lt n (by decide))

/-- The escape of a code unit. -/
def escapeUnit (u : Nat) : List UInt8 :=
  unitEscape (lastHex (u / 4096)) (lastHex (u / 256)) (lastHex (u / 16)) (lastHex u)

theorem codeUnit?_lastHex {u : Nat} (h : u < 65536) :
    codeUnit? (lastHex (u / 4096)) (lastHex (u / 256)) (lastHex (u / 16)) (lastHex u) =
      some u := by
  simp only [codeUnit?, hexOctet?_lastHex, bind, Option.bind, pure, Option.some.injEq]
  omega

theorem ascii_escapeUnit (u : Nat) : Ascii (escapeUnit u) := by
  simp only [escapeUnit, unitEscape, Ascii, List.forall_mem_cons, lastHex_lt, List.not_mem_nil,
    false_implies, implies_true, and_true]
  decide

/-- The escape of a character. One beyond the first plane takes two code units. -/
def escapeChar (c : Char) : List UInt8 :=
  if c.toNat < 0x10000 then escapeUnit c.toNat
  else
    escapeUnit (0xD800 + (c.toNat - 0x10000) / 0x400) ++
      escapeUnit (0xDC00 + (c.toNat - 0x10000) % 0x400)

theorem ascii_escapeChar (c : Char) : Ascii (escapeChar c) := by
  rw [escapeChar]
  split
  · exact ascii_escapeUnit _
  · exact (ascii_escapeUnit _).append (ascii_escapeUnit _)

theorem Spells.char (c : Char) {raw octets : List UInt8} (more : Spells raw octets) :
    Spells (escapeChar c ++ raw) (Text.utf8Char c ++ octets) := by
  have hvalid : c.toNat < 0xD800 ∨ 0xDFFF < c.toNat ∧ c.toNat < 0x110000 := c.valid
  rw [escapeChar]
  split
  · next hplane =>
    have hhigh : isHighHalf c.toNat = false := by
      rw [isHighHalf, Bool.and_eq_false_iff, decide_eq_false_iff_not, decide_eq_false_iff_not]
      omega
    have hlow : isLowHalf c.toNat = false := by
      rw [isLowHalf, Bool.and_eq_false_iff, decide_eq_false_iff_not, decide_eq_false_iff_not]
      omega
    have hspells := Spells.unit (codeUnit?_lastHex hplane) hhigh hlow more
    rw [Char.ofNat_toNat] at hspells
    exact hspells
  · next hplane =>
    obtain ⟨high, hhigh⟩ : ∃ u, u = 0xD800 + (c.toNat - 0x10000) / 0x400 := ⟨_, rfl⟩
    obtain ⟨low, hlow⟩ : ∃ u, u = 0xDC00 + (c.toNat - 0x10000) % 0x400 := ⟨_, rfl⟩
    have hhighSize : high < 65536 := by omega
    have hlowSize : low < 65536 := by omega
    rw [← hhigh, ← hlow, List.append_assoc]
    have hhighHalf : isHighHalf high = true := by
      rw [isHighHalf, Bool.and_eq_true, decide_eq_true_eq, decide_eq_true_eq]
      omega
    have hlowHalf : isLowHalf low = true := by
      rw [isLowHalf, Bool.and_eq_true, decide_eq_true_eq, decide_eq_true_eq]
      omega
    have hpoint : pairPoint high low = c.toNat := by
      unfold pairPoint
      omega
    have hspells := Spells.pair (codeUnit?_lastHex hhighSize) hhighHalf
      (codeUnit?_lastHex hlowSize) hlowHalf more
    rw [hpoint, Char.ofNat_toNat] at hspells
    exact hspells

/-! ## Strings, numbers and lists -/

theorem exists_stringText (s : String) : ∃ text, Ascii text ∧ StringText text s := by
  have hspells : ∀ cs : List Char, ∃ raw, Ascii raw ∧ SpellsText raw (.ofList cs) := by
    intro cs
    induction cs with
    | nil => exact ⟨[], List.forall_mem_nil _, .nil⟩
    | cons c cs ih =>
      obtain ⟨raw, hraw, hcs⟩ := ih
      refine ⟨escapeChar c ++ raw, (ascii_escapeChar c).append hraw, ?_⟩
      rw [SpellsText, Text.utf8_ofList_cons]
      exact .char c hcs
  obtain ⟨raw, hraw, hs⟩ := hspells s.toList
  rw [String.ofList_toList] at hs
  refine ⟨quoted raw, .cons (by decide) (hraw.append ?_), .intro hs⟩
  exact List.forall_mem_singleton.2 (by decide)

theorem exists_naturalText {bits n : Nat} (h : n < 2 ^ bits) :
    ∃ text, Ascii text ∧ NaturalText bits text n := by
  have hend : EndsNumber [] := by rintro _ ⟨⟩
  obtain ⟨hnumeral, -⟩ := numeral_of_scanWhole (scanWhole_printNat .malformed n hend)
  refine ⟨printNat n, fun b hb => ?_, hnumeral, digitsValue_printNat n, h⟩
  have hdigit := isDigitOctet_of_mem_printNat hb
  simp only [isDigitOctet, Bool.and_eq_true, decide_eq_true_eq, UInt8.le_iff_toNat_le] at hdigit
  rw [UInt8.lt_iff_toNat_lt]
  exact Nat.lt_of_le_of_lt hdigit.2 (by decide)

theorem exists_itemTexts {texts : List (List UInt8)} (h : ∀ t ∈ texts, Ascii t) :
    ∃ inside, Ascii inside ∧ ItemTexts inside texts := by
  have hentries : ∀ first, ∃ inside, Ascii inside ∧ Entries (ascii ']') (· = ·) first inside texts := by
    induction texts with
    | nil => 
      intro first
      exact ⟨[ascii ']'], List.forall_mem_singleton.2 (by decide), .close .nil⟩
    | cons t texts ih =>
      intro first
      obtain ⟨ht, htexts⟩ := List.forall_mem_cons.1 h
      obtain ⟨inside, hinside, hmore⟩ := ih htexts false
      cases first with
      | true => exact ⟨_, ht.append hinside, .next (.first .nil) rfl hmore⟩
      | false => exact ⟨_, .cons (by decide) (ht.append hinside), .next (.next .nil .nil) rfl hmore⟩
  exact hentries true

theorem exists_listText {α : Type} {item : List UInt8 → α → Prop} {as : List α}
    (h : ∀ a ∈ as, ∃ text, Ascii text ∧ item text a) :
    ∃ text, Ascii text ∧ ListText item text as := by
  have htexts : ∃ texts, (∀ t ∈ texts, Ascii t) ∧ List.Forall₂ item texts as := by
    induction as with
    | nil => exact ⟨[], List.forall_mem_nil _, .nil⟩
    | cons a as ih =>
      obtain ⟨ha, has⟩ := List.forall_mem_cons.1 h
      obtain ⟨text, htext, hitem⟩ := ha
      obtain ⟨texts, htexts, hitems⟩ := ih has
      exact ⟨text :: texts, List.forall_mem_cons.2 ⟨htext, htexts⟩, .cons hitem hitems⟩
  obtain ⟨texts, hascii, hitems⟩ := htexts
  obtain ⟨inside, hinside, hcut⟩ := exists_itemTexts hascii
  exact ⟨ascii '[' :: inside, .cons (by decide) hinside, .intro hcut hitems⟩

end Json

end ControlPlane
