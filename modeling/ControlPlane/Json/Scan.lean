import ControlPlane.Binary64.Arithmetic
import ControlPlane.Json.Fault
import ControlPlane.Json.Printer

/-!
# The tokens of a JSON text

Blanks, literal words, strings and numbers, read from the front of a list of octets. Each function
answers what it read together with the octets that follow, or the first fault in reading order.

## Main definitions

- `Json.skipBlanks`: the text from its first octet that is no blank.
- `Json.scanString`: the rest of a string after its opening quote, escapes undone.
- `Json.skipString`: the same without looking at what the string means.
- `Json.scanNumber`: the parts of a number.
- `Json.NumberText.value?`: the number that the parts denote.
-/

namespace ControlPlane.Json

/-- A reader of something at the front of a text: what it is, and the text that follows it. -/
abbrev Reader (α : Type) := List UInt8 → Except Fault (α × List UInt8)

/-- Blank, tab, line feed and carriage return. -/
def isBlankOctet (b : UInt8) : Bool := b == 32 || b == 9 || b == 10 || b == 13

/-- The text from its first octet that is no blank. -/
def skipBlanks (input : List UInt8) : List UInt8 := input.dropWhile isBlankOctet

/-- The text after the letters `word`. -/
def scanWord : List UInt8 → List UInt8 → Except Fault (List UInt8)
  | [], input => .ok input
  | _ :: _, [] => .error .endOfInput
  | w :: word, b :: input => if b = w then scanWord word input else .error .malformed

/-! ## Strings -/

/-- The octet that a one-letter escape stands for. -/
def shortEscape? (b : UInt8) : Option UInt8 :=
  if b = ascii '"' then some (ascii '"')
  else if b = ascii '\\' then some (ascii '\\')
  else if b = ascii '/' then some (ascii '/')
  else if b = ascii 'b' then some 8
  else if b = ascii 'f' then some 12
  else if b = ascii 'n' then some 10
  else if b = ascii 'r' then some 13
  else if b = ascii 't' then some 9
  else none

/-- The value of an octet as a hexadecimal digit. -/
def hexOctet? (b : UInt8) : Option Nat := Text.hexValue? (Char.ofNat b.toNat)

/-- The code unit that four hexadecimal digits stand for. -/
def codeUnit? (a b c d : UInt8) : Option Nat := do
  let a ← hexOctet? a
  let b ← hexOctet? b
  let c ← hexOctet? c
  let d ← hexOctet? d
  return ((a * 16 + b) * 16 + c) * 16 + d

/-- Whether a code unit is the first half of a pair. -/
def isHighHalf (u : Nat) : Bool := 0xD800 ≤ u && u ≤ 0xDBFF

/-- Whether a code unit is the second half of a pair. -/
def isLowHalf (u : Nat) : Bool := 0xDC00 ≤ u && u ≤ 0xDFFF

/-- The code point of a pair of halves. -/
def pairPoint (high low : Nat) : Nat := 0x10000 + (high - 0xD800) * 0x400 + (low - 0xDC00)

/-- Where the scanner stands inside a string. -/
inductive StringState
  /-- Between characters. -/
  | plain
  /-- After a backslash. -/
  | escape
  /-- Among the four digits of a code unit; `high` is the first half it completes, `digits` are
  those read so far, last first. -/
  | digits (high : Option Nat) (digits : List UInt8)
  /-- After the first half of a pair. -/
  | afterHigh (high : Nat)
  /-- After the first half of a pair and a backslash. -/
  | afterHighEscape (high : Nat)

/-- `octets` in front of what is scanned next. -/
def emit (octets : List UInt8) (scanned : Except Fault (List UInt8 × List UInt8)) :
    Except Fault (List UInt8 × List UInt8) :=
  match scanned with
  | .ok (more, rest) => .ok (octets ++ more, rest)
  | .error e => .error e

/-- What a complete code unit leads to: the octets of a character, the wait for a second half, or
a fault when halves do not pair up. -/
inductive UnitResult
  | character (octets : List UInt8)
  | half (high : Nat)
  | unpaired

/-- A code unit after the first half `high`, if there was one. -/
def unitResult (high : Option Nat) (u : Nat) : UnitResult :=
  match high with
  | none =>
    if isLowHalf u then .unpaired
    else if isHighHalf u then .half u
    else .character (Text.utf8Char (Char.ofNat u))
  | some h =>
    if isLowHalf u then .character (Text.utf8Char (Char.ofNat (pairPoint h u))) else .unpaired

/-- The octets of a string from inside it up to its closing quote, escapes undone. -/
def stringOctets : StringState → Reader (List UInt8)
  | _, [] => .error .endOfInput
  | .plain, b :: rest =>
    if b = ascii '"' then .ok ([], rest)
    else if b = ascii '\\' then stringOctets .escape rest
    else if b < 32 then .error .malformed
    else emit [b] (stringOctets .plain rest)
  | .escape, b :: rest =>
    match shortEscape? b with
    | some c => emit [c] (stringOctets .plain rest)
    | none => if b = ascii 'u' then stringOctets (.digits none []) rest else .error .malformed
  | .digits high [z, y, x], b :: rest =>
    match codeUnit? x y z b with
    | none => .error .malformed
    | some u =>
      match unitResult high u with
      | .character octets => emit octets (stringOctets .plain rest)
      | .half h => stringOctets (.afterHigh h) rest
      | .unpaired => .error .malformed
  | .digits high ds, b :: rest => stringOctets (.digits high (b :: ds)) rest
  | .afterHigh high, b :: rest =>
    if b = ascii '\\' then stringOctets (.afterHighEscape high) rest else .error .malformed
  | .afterHighEscape high, b :: rest =>
    if b = ascii 'u' then stringOctets (.digits (some high) []) rest else .error .malformed

/-- A string after its opening quote. Its octets must form a text. -/
def scanString : Reader String := fun input =>
  match stringOctets .plain input with
  | .error e => .error e
  | .ok (octets, rest) =>
    match Text.ofUtf8? octets with
    | some s => .ok (s, rest)
    | none => .error .malformed

/-- The text after a string whose content does not matter; `digits` of the digits of a code unit
are owed, and `escape` tells that a backslash came before. Escapes must be well formed, but halves
need not pair up and the octets need not form a text. -/
def skipStringFrom (escape : Bool) (owed : List UInt8) : List UInt8 → Except Fault (List UInt8)
  | [] => .error .endOfInput
  | b :: rest =>
    match escape, owed with
    | true, _ =>
      if (shortEscape? b).isSome then skipStringFrom false [] rest
      else if b = ascii 'u' then skipStringFrom false [b] rest
      else .error .malformed
    | false, [] =>
      if b = ascii '"' then .ok rest
      else if b = ascii '\\' then skipStringFrom true [] rest
      else if b < 32 then .error .malformed
      else skipStringFrom false [] rest
    | false, [z, y, x, _] =>
      if (codeUnit? x y z b).isSome then skipStringFrom false [] rest else .error .malformed
    | false, ds => skipStringFrom false (b :: ds) rest

/-- The text after a string, from after its opening quote. -/
def skipString (input : List UInt8) : Except Fault (List UInt8) := skipStringFrom false [] input

/-! ## Numbers -/

/-- Whether an octet is a decimal digit. -/
def isDigitOctet (b : UInt8) : Bool := 48 ≤ b && b ≤ 57

/-- The natural number that decimal digits denote. -/
def digitsValue (ds : List UInt8) : Nat := ds.foldl (fun n b => 10 * n + (b.toNat - 48)) 0

/-- The parts of a number as they are written. -/
structure NumberText where
  negative : Bool
  whole : List UInt8
  fraction : Option (List UInt8)
  /-- Whether the exponent is negative, and its digits. -/
  exponent : Option (Bool × List UInt8)

/-- Digits, of which there must be at least one; `cut` is the fault when the text ends instead. -/
def scanDigits (cut : Fault) : Reader (List UInt8) := fun input =>
  match input.takeWhile isDigitOctet, input with
  | [], [] => .error cut
  | [], _ :: _ => .error .malformed
  | ds, _ => .ok (ds, input.dropWhile isDigitOctet)

/-- The whole part of a number: a zero, or digits that do not start with one. -/
def scanWhole (cut : Fault) : Reader (List UInt8) := fun input =>
  match scanDigits cut input with
  | .error e => .error e
  | .ok (ds, rest) =>
    if ds.head? = some (ascii '0') ∧ ds.length ≠ 1 then .error .malformed else .ok (ds, rest)

/-- A point with the digits after it, if the text goes on with one. -/
def scanFraction (cut : Fault) : Reader (Option (List UInt8))
  | [] => .ok (none, [])
  | b :: rest =>
    if b = ascii '.' then (scanDigits cut rest).map fun (ds, rest) => (some ds, rest)
    else .ok (none, b :: rest)

/-- An exponent with its optional sign, if the text goes on with one. -/
def scanExponent (cut : Fault) : Reader (Option (Bool × List UInt8))
  | [] => .ok (none, [])
  | b :: rest =>
    if b = ascii 'e' ∨ b = ascii 'E' then
      let (negative, digits) :=
        match rest with
        | [] => (false, [])
        | s :: more =>
          if s = ascii '-' then (true, more)
          else if s = ascii '+' then (false, more)
          else (false, rest)
      (scanDigits cut digits).map fun (ds, rest) => (some (negative, ds), rest)
    else .ok (none, b :: rest)

/-- The parts of a number, from after its sign. -/
def scanNumber (cut : Fault) (negative : Bool) : Reader NumberText := fun input => do
  let (whole, rest) ← scanWhole cut input
  let (fraction, rest) ← scanFraction cut rest
  let (exponent, rest) ← scanExponent cut rest
  return ({ negative, whole, fraction, exponent }, rest)

/-- The whole number that the digits form behind those of `n`, as far as it fits a word of 64 bits,
and the digits from the first one on that does not. -/
def gatherDigits (n : Nat) : List UInt8 → Nat × List UInt8
  | [] => (n, [])
  | d :: ds =>
    let more := 10 * n + (d.toNat - 48)
    if more < UInt64.size then gatherDigits more ds else (n, d :: ds)

/-- The power of ten that the exponent denotes. -/
def NumberText.shift (t : NumberText) : Int :=
  match t.exponent with
  | none => 0
  | some (true, ds) => -(digitsValue ds : Int)
  | some (false, ds) => digitsValue ds

/-- The floating-point number that the parts denote, if it is small enough to have one. Its
significand holds the digits that fit a word: of the whole digits that do not fit only the number
counts, and fraction digits that do not fit are left out. The significand is rounded, then scaled
by its power of ten. -/
def NumberText.float? (t : NumberText) : Option Number :=
  let fraction := t.fraction.getD []
  let (whole, uncounted) := gatherDigits 0 t.whole
  let (significand, unused) := gatherDigits whole fraction
  let scale : Int := uncounted.length + unused.length - fraction.length + t.shift
  ((Binary64.nearest? t.negative significand 1).bind (·.scaleTen? scale)).map .float

/-- The number that the parts denote: a whole one if there is neither point nor exponent and it
fits 64 bits, signed below zero and unsigned from zero on, and otherwise a floating-point number.
Minus zero is a floating-point number. -/
def NumberText.value? (t : NumberText) : Option Number :=
  match t.fraction, t.exponent with
  | none, none =>
    let n := digitsValue t.whole
    if t.negative then
      if 0 < n ∧ n ≤ 1 <<< 63 then some (.int (-(n : Int))) else t.float?
    else if n < UInt64.size then some (.int n) else t.float?
  | _, _ => t.float?

/-- A number from after its sign. -/
def scanNumberValue (negative : Bool) : Reader Number := fun input =>
  match scanNumber .endOfInput negative input with
  | .error e => .error e
  | .ok (t, rest) =>
    match t.value? with
    | some n => .ok (n, rest)
    | none => .error .malformed

end ControlPlane.Json
