import ControlPlane.Text.Blank

/-!
# Numerals

## Main definitions

- `Text.unsigned?`: the number below a bound that a numeral denotes.
-/

namespace ControlPlane.Text

/-- The number that decimal digits denote; there must be one at least. -/
def decimal? (digits : List Char) : Option Nat :=
  if digits.isEmpty || !digits.all Char.isDigit then none
  else some (Nat.ofDigitChars 10 digits 0)

/-- The number below `bound` that a numeral denotes: decimal digits, perhaps behind a plus sign. -/
def unsigned? (bound : Nat) (numeral : List Char) : Option Nat :=
  let digits := match numeral with
    | '+' :: digits => digits
    | _ => numeral
  (decimal? digits).filter (· < bound)

end ControlPlane.Text
