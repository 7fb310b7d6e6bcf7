import ControlPlane.Json.Scan

/-!
# Reading JSON

A text is read from front to back in one pass, so that the first fault in reading order is the one
that is reported. Arrays and objects are read by combinators that take the reader of their items
and members, so that the same two functions serve free values, values that are passed over, and
records with known fields.

## Main definitions

- `Json.readStart`: a scalar, or the opening of an array or object.
- `Json.readItems`, `Json.readMembers`: the insides of arrays and objects.
- `Json.readValue`: a value that nests no deeper than a limit.
- `Json.skipValue`: the text after a value that does not matter.
- `Json.ofText`: a whole text as a value.
-/

namespace ControlPlane.Json

/-- The front of a value: a scalar with what follows it, or what follows an opening bracket. -/
inductive Start
  | scalar (value : Json) (rest : List UInt8)
  | array (rest : List UInt8)
  | object (rest : List UInt8)

/-- The front of the next value. -/
def readStart (input : List UInt8) : Except Fault Start :=
  match skipBlanks input with
  | [] => .error .endOfInput
  | b :: rest =>
    if b = ascii 'n' then
      (scanWord (asciiList ['u', 'l', 'l']) rest).map (.scalar .null)
    else if b = ascii 't' then
      (scanWord (asciiList ['r', 'u', 'e']) rest).map (.scalar (.bool true))
    else if b = ascii 'f' then
      (scanWord (asciiList ['a', 'l', 's', 'e']) rest).map (.scalar (.bool false))
    else if b = ascii '"' then
      (scanString rest).map fun (s, rest) => .scalar (.string s) rest
    else if b = ascii '[' then .ok (.array rest)
    else if b = ascii '\x7b' then .ok (.object rest)
    else if b = ascii '-' then
      (scanNumberValue true rest).map fun (n, rest) => .scalar (.number n) rest
    else if isDigitOctet b then
      (scanNumberValue false (b :: rest)).map fun (n, rest) => .scalar (.number n) rest
    else .error .malformed

/-- The end of an array or object, or the place of its next item or key. -/
inductive Next
  | done (rest : List UInt8)
  | more (input : List UInt8)

/-- What comes next inside a bracket that `close` ends: after the first item a comma must stand
before another one. -/
def nextEntry (close : UInt8) (first : Bool) (input : List UInt8) : Except Fault Next :=
  match skipBlanks input with
  | [] => .error .endOfInput
  | b :: rest =>
    if b = close then .ok (.done rest)
    else if first then .ok (.more (b :: rest))
    else if b = ascii ',' then
      match skipBlanks rest with
      | [] => .error .endOfInput
      | c :: rest => if c = close then .error .malformed else .ok (.more (c :: rest))
    else .error .malformed

/-- The items of an array from after its bracket, at most `fuel` of them. An item takes at least
one octet, so the length of the text is always enough. -/
def readItems {α : Type} (item : Reader α) :
    (fuel : Nat) → (first : Bool) → Reader (List α)
  | 0, _, _ => .error .endOfInput
  | fuel + 1, first, input =>
    match nextEntry (ascii ']') first input with
    | .error e => .error e
    | .ok (.done rest) => .ok ([], rest)
    | .ok (.more input) =>
      match item input with
      | .error e => .error e
      | .ok (v, rest) =>
        match readItems item fuel false rest with
        | .error e => .error e
        | .ok (vs, rest) => .ok (v :: vs, rest)

/-- The text after a colon. -/
def readColon (input : List UInt8) : Except Fault (List UInt8) :=
  match skipBlanks input with
  | [] => .error .endOfInput
  | b :: rest => if b = ascii ':' then .ok rest else .error .malformed

/-- The members of an object from after its bracket, at most `fuel` of them. `key` reads a key
after its opening quote; `member` takes the key and reads the colon and the value into a state. -/
def readMembers {σ κ : Type} (key : Reader κ) (member : σ → κ → Reader σ) :
    (fuel : Nat) → (first : Bool) → σ → Reader σ
  | 0, _, _, _ => .error .endOfInput
  | fuel + 1, first, state, input =>
    match nextEntry (ascii '\x7d') first input with
    | .error e => .error e
    | .ok (.done rest) => .ok (state, rest)
    | .ok (.more []) => .error .endOfInput
    | .ok (.more (b :: input)) =>
      if b = ascii '"' then
        match key input with
        | .error e => .error e
        | .ok (k, rest) =>
          match member state k rest with
          | .error e => .error e
          | .ok (state, rest) => readMembers key member fuel false state rest
      else .error .malformed

/-- The next value, in which at most `levels` arrays and objects nest. Of a key that occurs more
than once the last value counts. -/
def readValue : (levels : Nat) → Reader Json
  | 0, input =>
    match readStart input with
    | .error e => .error e
    | .ok (.scalar v rest) => .ok (v, rest)
    | .ok (.array _) => .error .malformed
    | .ok (.object _) => .error .malformed
  | levels + 1, input =>
    match readStart input with
    | .error e => .error e
    | .ok (.scalar v rest) => .ok (v, rest)
    | .ok (.array rest) =>
      (readItems (readValue levels) (rest.length + 1) true rest).map fun (items, rest) =>
        (.array items, rest)
    | .ok (.object rest) =>
      let member (members : List (String × Json)) (key : String) : Reader (List (String × Json)) :=
        fun input => do
          let input ← readColon input
          let (v, rest) ← readValue levels input
          return (putMember members key v, rest)
      (readMembers scanString member (rest.length + 1) true [] rest).map fun (members, rest) =>
        (.object members, rest)

/-- The front of a value that does not matter, as `readStart` but without a meaning: strings need
not form a text, and numbers may be too large. -/
def skipStart (input : List UInt8) : Except Fault Start :=
  match skipBlanks input with
  | [] => .error .endOfInput
  | b :: rest =>
    if b = ascii '"' then (skipString rest).map (.scalar .null)
    else if b = ascii '-' then
      (scanNumber .malformed true rest).map fun (_, rest) => .scalar .null rest
    else if isDigitOctet b then
      (scanNumber .malformed false (b :: rest)).map fun (_, rest) => .scalar .null rest
    else readStart (b :: rest)

/-- The text after a value that does not matter, however deeply it nests; `fuel` bounds the depth,
and the length of the text is always enough. -/
def skipValue : (fuel : Nat) → Reader Unit
  | 0, _ => .error .endOfInput
  | fuel + 1, input =>
    match skipStart input with
    | .error e => .error e
    | .ok (.scalar _ rest) => .ok ((), rest)
    | .ok (.array rest) =>
      (readItems (skipValue fuel) (rest.length + 1) true rest).map fun (_, rest) => ((), rest)
    | .ok (.object rest) =>
      let key : Reader Unit := fun input => (skipString input).map fun rest => ((), rest)
      let member (_ _ : Unit) : Reader Unit := fun input => do
        let input ← readColon input
        skipValue fuel input
      readMembers key member (rest.length + 1) true () rest

/-- Nothing but blanks may follow. -/
def expectEnd (input : List UInt8) : Except Fault Unit :=
  if (skipBlanks input).isEmpty then .ok () else .error .malformed

/-- The deepest nesting of a text that is read. -/
def maxLevels : Nat := 127

/-- A whole text, read by `reader`. -/
def ofText {α : Type} (reader : Reader α) (input : List UInt8) : Except Fault α := do
  let (v, rest) ← reader input
  expectEnd rest
  return v

end ControlPlane.Json
