import ControlPlane.Text.Lossy
import Mathlib.Tactic.SplitIfs

/-!
# What texts show as

## Main statements

- `Text.shown_utf8Char`: the octets of a character show as that character.
- `Text.lossy_utf8`: the octets of a text show as that text.
-/

namespace ControlPlane.Text

variable {v n bits low high : Nat} {wanted : List (Nat × Nat)} {rest : List UInt8}

/-! ## Fronts of characters -/

theorem ofFirst?_two (h₁ : 0x7F < v) (h₂ : v ≤ 0x7FF) :
    Front.ofFirst? (v / 64 % 32 + 0xC0) = some ⟨v / 64, [(0x80, 0xBF)]⟩ := by
  have hbits : v / 64 % 32 + 0xC0 - 0xC0 = v / 64 := by omega
  rw [Front.ofFirst?, if_neg (by omega), if_neg (by omega), if_pos (by omega), hbits]

/-- The second octet of three may stand where it does: the point has no shorter form, and it is not
half of a pair. -/
theorem ofFirst?_three (h₁ : 0x7FF < v) (h₂ : v ≤ 0xFFFF) (hvalid : v < 0xD800 ∨ 0xDFFF < v) :
    ∃ low high, Front.ofFirst? (v / 4096 % 16 + 0xE0) =
        some ⟨v / 4096, [(low, high), (0x80, 0xBF)]⟩ ∧
      low ≤ v / 64 % 64 + 0x80 ∧ v / 64 % 64 + 0x80 ≤ high := by
  rw [Front.ofFirst?, if_neg (by omega), if_neg (by omega), if_neg (by omega)]
  by_cases hfirst : v / 4096 = 0
  · rw [if_pos (by omega), hfirst]
    exact ⟨_, _, rfl, by omega, by omega⟩
  by_cases hpairs : v / 4096 = 0xD
  · rw [if_neg (by omega), if_pos (by omega), hpairs]
    exact ⟨_, _, rfl, by omega, by omega⟩
  · have hbits : v / 4096 % 16 + 0xE0 - 0xE0 = v / 4096 := by omega
    rw [if_neg (by omega), if_neg (by omega), if_pos (by omega), hbits]
    exact ⟨_, _, rfl, by omega, by omega⟩

/-- The second octet of four may stand where it does: the point has no shorter form, and it is not
above the last one. -/
theorem ofFirst?_four (h₁ : 0xFFFF < v) (h₂ : v < 0x110000) :
    ∃ low high, Front.ofFirst? (v / 262144 % 8 + 0xF0) =
        some ⟨v / 262144, [(low, high), (0x80, 0xBF), (0x80, 0xBF)]⟩ ∧
      low ≤ v / 4096 % 64 + 0x80 ∧ v / 4096 % 64 + 0x80 ≤ high := by
  rw [Front.ofFirst?, if_neg (by omega), if_neg (by omega), if_neg (by omega), if_neg (by omega),
    if_neg (by omega), if_neg (by omega)]
  by_cases hfirst : v / 262144 = 0
  · rw [if_pos (by omega), hfirst]
    exact ⟨_, _, rfl, by omega, by omega⟩
  by_cases hlast : v / 262144 = 4
  · rw [if_neg (by omega), if_neg (by omega), if_pos (by omega), hlast]
    exact ⟨_, _, rfl, by omega, by omega⟩
  · have hbits : v / 262144 % 8 + 0xF0 - 0xF0 = v / 262144 := by omega
    rw [if_neg (by omega), if_pos (by omega), hbits]
    exact ⟨_, _, rfl, by omega, by omega⟩

/-! ## One octet -/

theorem shown_none_cons (hn : n < 256) :
    shown none (UInt8.ofNat n :: rest) = (showFirst n).1 ++ shown (showFirst n).2 rest := by
  rw [shown, UInt8.toNat_ofNat_of_lt' hn]

theorem shown_some_cons {front : Front} (hn : n < 256) :
    shown (some front) (UInt8.ofNat n :: rest) =
      (showNext front n).1 ++ shown (showNext front n).2 rest := by
  rw [shown, UInt8.toNat_ofNat_of_lt' hn]

theorem shown_first {front : Front} (h : Front.ofFirst? n = some front)
    (hwanted : front.wanted ≠ []) (hn : n < 256) :
    shown none (UInt8.ofNat n :: rest) = shown (some front) rest := by
  have hfirst : showFirst n = ([], some front) := by
    simp [showFirst, h, Front.settle, hwanted]
  rw [shown_none_cons hn, hfirst, List.nil_append]

theorem shown_next (hlow : low ≤ n) (hhigh : n ≤ high) (hwanted : wanted ≠ []) (hn : n < 256) :
    shown (some ⟨bits, (low, high) :: wanted⟩) (UInt8.ofNat n :: rest) =
      shown (some ⟨bits * 64 + (n - 0x80), wanted⟩) rest := by
  have hnext : showNext ⟨bits, (low, high) :: wanted⟩ n =
      ([], some ⟨bits * 64 + (n - 0x80), wanted⟩) := by
    simp [showNext, hlow, hhigh, Front.settle, hwanted]
  rw [shown_some_cons hn, hnext, List.nil_append]

theorem shown_last (hlow : low ≤ n) (hhigh : n ≤ high) (hn : n < 256) :
    shown (some ⟨bits, [(low, high)]⟩) (UInt8.ofNat n :: rest) =
      Char.ofNat (bits * 64 + (n - 0x80)) :: shown none rest := by
  have hnext : showNext ⟨bits, [(low, high)]⟩ n =
      ([Char.ofNat (bits * 64 + (n - 0x80))], none) := by
    simp [showNext, hlow, hhigh, Front.settle]
  rw [shown_some_cons hn, hnext, List.singleton_append]

/-! ## Characters and texts -/

theorem utf8Char_eq (c : Char) : utf8Char c = String.utf8EncodeChar c := by
  rw [utf8Char, utf8, String.singleton_eq_ofList, String.toByteArray_ofList]
  simp [List.utf8Encode]

theorem shown_utf8Char (c : Char) (rest : List UInt8) :
    shown none (utf8Char c ++ rest) = c :: shown none rest := by
  have hvalid : c.val.toNat < 0xD800 ∨ 0xDFFF < c.val.toNat ∧ c.val.toNat < 0x110000 := c.valid
  have hchar : Char.ofNat c.val.toNat = c := Char.ofNat_toNat c
  rw [utf8Char_eq, String.utf8EncodeChar]
  generalize c.val.toNat = v at hvalid hchar
  -- One case for each number of octets.
  split_ifs with h₁ h₂ h₃
  · have hfirst : showFirst v = ([c], none) := by
      rw [showFirst, Front.ofFirst?, if_pos (by omega)]
      simp [Front.settle, hchar]
    rw [List.singleton_append, shown_none_cons (by omega), hfirst, List.singleton_append]
  · have hpoint : v / 64 * 64 + (v % 64 + 128 - 0x80) = v := by omega
    rw [List.cons_append, List.cons_append, List.nil_append,
      shown_first (ofFirst?_two (by omega) h₂) (List.cons_ne_nil _ _) (by omega),
      shown_last (by omega) (by omega) (by omega), hpoint, hchar]
  · obtain ⟨low, high, hfirst, hlow, hhigh⟩ := ofFirst?_three (by omega) h₃ (by omega)
    have hpoint : (v / 4096 * 64 + (v / 64 % 64 + 128 - 0x80)) * 64 + (v % 64 + 128 - 0x80) =
        v := by
      omega
    rw [List.cons_append, List.cons_append, List.cons_append, List.nil_append,
      shown_first hfirst (List.cons_ne_nil _ _) (by omega),
      shown_next hlow hhigh (List.cons_ne_nil _ _) (by omega),
      shown_last (by omega) (by omega) (by omega), hpoint, hchar]
  · obtain ⟨low, high, hfirst, hlow, hhigh⟩ := ofFirst?_four (Nat.lt_of_not_le h₃) (by omega)
    have hpoint : ((v / 262144 * 64 + (v / 4096 % 64 + 128 - 0x80)) * 64 +
        (v / 64 % 64 + 128 - 0x80)) * 64 + (v % 64 + 128 - 0x80) = v := by
      omega
    rw [List.cons_append, List.cons_append, List.cons_append, List.cons_append, List.nil_append,
      shown_first hfirst (List.cons_ne_nil _ _) (by omega),
      shown_next hlow hhigh (List.cons_ne_nil _ _) (by omega),
      shown_next (by omega) (by omega) (List.cons_ne_nil _ _) (by omega),
      shown_last (by omega) (by omega) (by omega), hpoint, hchar]

theorem lossy_utf8 (s : String) : lossy (utf8 s) = s := by
  have hshown : ∀ cs : List Char, shown none (utf8 (.ofList cs)) = cs := by
    intro cs
    induction cs with
    | nil => rfl
    | cons c cs ih => rw [utf8_ofList_cons, shown_utf8Char, ih]
  rw [lossy, ← String.ofList_toList (s := s), hshown]

end ControlPlane.Text
