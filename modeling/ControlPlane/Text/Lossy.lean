import ControlPlane.Text.Utf8

/-!
# Octets shown as a text

Octets that form no text can be shown all the same. What begins no character shows as U+FFFD, and so
does the front of a character that breaks off.

## Main definitions

- `Text.Front`: the front of a character.
- `Text.shown`: the characters that octets show as.
- `Text.lossy`: the text that octets show as.
-/

namespace ControlPlane.Text

/-- What stands for octets that form no character. -/
def replacement : Char := Char.ofNat 0xFFFD

/-- The front of a character: its bits so far, and for each octet to come the least and the greatest
one that may stand there. -/
structure Front where
  bits : Nat
  wanted : List (Nat × Nat)

namespace Front

/-- What a first octet begins; nothing, if no character begins with it. The second octet must not
spell a point that has a shorter form, half of a pair, or a point above the last one. -/
def ofFirst? (n : Nat) : Option Front :=
  let plain := (0x80, 0xBF)
  if n < 0x80 then some ⟨n, []⟩
  else if n < 0xC2 then none
  else if n < 0xE0 then some ⟨n - 0xC0, [plain]⟩
  else if n = 0xE0 then some ⟨0, [(0xA0, 0xBF), plain]⟩
  else if n = 0xED then some ⟨0xD, [(0x80, 0x9F), plain]⟩
  else if n < 0xF0 then some ⟨n - 0xE0, [plain, plain]⟩
  else if n = 0xF0 then some ⟨0, [(0x90, 0xBF), plain, plain]⟩
  else if n < 0xF4 then some ⟨n - 0xF0, [plain, plain, plain]⟩
  else if n = 0xF4 then some ⟨4, [(0x80, 0x8F), plain, plain]⟩
  else none

/-- The character, if no octet of it is to come any more, and the front otherwise. -/
def settle (front : Front) : List Char × Option Front :=
  if front.wanted.isEmpty then ([Char.ofNat front.bits], none) else ([], some front)

end Front

/-- What an octet shows as at the beginning of a character, and the front that it leaves. -/
def showFirst (n : Nat) : List Char × Option Front :=
  match Front.ofFirst? n with
  | some front => front.settle
  | none => ([replacement], none)

/-- What an octet shows as behind the front of a character, and the front that it leaves. An octet
that may not stand there begins anew. -/
def showNext (front : Front) (n : Nat) : List Char × Option Front :=
  match front.wanted with
  | (low, high) :: wanted =>
    if low ≤ n ∧ n ≤ high then Front.settle ⟨front.bits * 64 + (n - 0x80), wanted⟩
    else
      let (characters, next) := showFirst n
      (replacement :: characters, next)
  | [] => showFirst n

/-- The characters that octets show as, behind what may be the front of a character. -/
def shown : Option Front → List UInt8 → List Char
  | none, [] => []
  | some _, [] => [replacement]
  | front?, octet :: rest =>
    let (characters, next) := match front? with
      | none => showFirst octet.toNat
      | some front => showNext front octet.toNat
    characters ++ shown next rest

/-- The text that octets show as. -/
def lossy (octets : List UInt8) : String := String.ofList (shown none octets)

end ControlPlane.Text
