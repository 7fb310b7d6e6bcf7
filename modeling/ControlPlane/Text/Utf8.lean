/-!
# Texts as octets

The UTF-8 form of a text as a list of octets, and the text with a given form.

## Main definitions

- `Text.utf8`: the octets of a text.
- `Text.ofUtf8?`: the text with these octets, if they form one.
- `Text.hexOctets`, `Text.octetsOfHex?`: octets as pairs of hexadecimal digits.
-/

namespace ControlPlane.Text

/-- The octets of a text. -/
def utf8 (s : String) : List UInt8 := s.toByteArray.data.toList

/-- The text with these octets, if they form one. -/
def ofUtf8? (octets : List UInt8) : Option String := String.fromUTF8? ⟨octets.toArray⟩

theorem ofUtf8?_utf8 (s : String) : ofUtf8? (utf8 s) = some s := by
  simp only [ofUtf8?, utf8, String.fromUTF8?, Array.toArray_toList]
  exact dif_pos s.isValidUTF8

/-- The octets of a character. -/
def utf8Char (c : Char) : List UInt8 := utf8 (String.singleton c)

theorem utf8_append (s t : String) : utf8 (s ++ t) = utf8 s ++ utf8 t := by
  rw [utf8, String.toByteArray_append, ByteArray.data_append, Array.toList_append, utf8, utf8]

theorem utf8_ofList_cons (c : Char) (cs : List Char) :
    utf8 (.ofList (c :: cs)) = utf8Char c ++ utf8 (.ofList cs) := by
  rw [String.ofList_cons, utf8_append, utf8Char]

/-- The hexadecimal digit of a value below sixteen. -/
def hexDigit (n : Nat) : Char := if n < 10 then Char.ofNat (48 + n) else Char.ofNat (87 + n)

/-- The value of a hexadecimal digit of either case. -/
def hexValue? (c : Char) : Option Nat :=
  let n := c.toNat
  if 48 ≤ n ∧ n ≤ 57 then some (n - 48)
  else if 97 ≤ n ∧ n ≤ 102 then some (n - 87)
  else if 65 ≤ n ∧ n ≤ 70 then some (n - 55)
  else none

/-- Octets as pairs of lower-case hexadecimal digits. -/
def hexOctets (octets : List UInt8) : String :=
  String.ofList (octets.flatMap fun b => [hexDigit (b.toNat / 16), hexDigit (b.toNat % 16)])

/-- The octets that pairs of hexadecimal digits stand for. -/
def octetsOfHex? : List Char → Option (List UInt8)
  | [] => some []
  | [_] => none
  | a :: b :: rest => do
    let high ← hexValue? a
    let low ← hexValue? b
    let octets ← octetsOfHex? rest
    return UInt8.ofNat (16 * high + low) :: octets

end ControlPlane.Text
