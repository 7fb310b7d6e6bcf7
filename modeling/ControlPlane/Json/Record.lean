import ControlPlane.Json.Reader

/-!
# Reading values of known shape from a text

Strings, numbers of a fixed width, lists and records are read straight from the text. A scalar of
another type is read to its end before the mismatch is reported; an array or object in the wrong
place is reported at its bracket.

A record is written as an object, with its members in any order and others between them that are
passed over, or as an array of its fields in their order.

## Main definitions

- `Json.readText`, `Json.readUnsigned`, `Json.readList`: the simple shapes.
- `Json.Field`: one field of a record that is being filled.
- `Json.readRecord`: a record of either form.
-/

namespace ControlPlane.Json

/-- The mismatch of finding something else than `expected`. -/
def wrongType {α : Type} (f : Found) (expected : String) : Except Fault α :=
  .error (.mismatch (.invalidType f expected))

/-- A string. -/
def readText : Reader String := fun input => do
  match ← readStart input with
  | .scalar (.string s) rest => .ok (s, rest)
  | .scalar v _ => wrongType v.found "a string"
  | .array _ => wrongType .sequence "a string"
  | .object _ => wrongType .map "a string"

/-- A whole number below `2 ^ bits`. -/
def readUnsigned (bits : Nat) : Reader Nat := fun input => do
  let expected := "u" ++ toString bits
  match ← readStart input with
  | .scalar (.number (.int n)) rest =>
    if 0 ≤ n ∧ n.toNat < 1 <<< bits then .ok (n.toNat, rest)
    else .error (.mismatch (.invalidValue (.int n) expected))
  | .scalar v _ => wrongType v.found expected
  | .array _ => wrongType .sequence expected
  | .object _ => wrongType .map expected

/-- A list of what `item` reads. -/
def readList {α : Type} (item : Reader α) : Reader (List α) := fun input => do
  match ← readStart input with
  | .array rest => readItems item (rest.length + 1) true rest
  | .scalar v _ => wrongType v.found "a sequence"
  | .object _ => wrongType .map "a sequence"

/-- One field of a record whose fields are collected in a state. -/
structure Field (σ : Type) where
  key : String
  /-- Whether the record may lack the field. -/
  optional : Bool
  /-- Whether the state has the field. -/
  filled : σ → Bool
  /-- The state with the field read from the front of a text. -/
  read : σ → Reader σ

/-- One member of a record: a known field for the first time, a known field again, or another
member, which is passed over. -/
def readMember {σ : Type} (fields : List (Field σ)) (state : σ) (key : String) : Reader σ :=
  fun input =>
    match fields.find? (·.key == key) with
    | none => do
      let input ← readColon input
      let (_, rest) ← skipValue input.length input
      return (state, rest)
    | some f =>
      if f.filled state then .error (.mismatch (.duplicateField key))
      else do
        let input ← readColon input
        f.read state input

/-- The first field, in their order, that must be there and is not. -/
def missing? {σ : Type} (fields : List (Field σ)) (state : σ) : Option String :=
  (fields.find? fun f => !f.optional && !f.filled state).map (·.key)

/-- The end of an array whose fields have all been read. -/
def readArrayEnd (input : List UInt8) : Except Fault (List UInt8) :=
  match skipBlanks input with
  | [] => .error .endOfInput
  | b :: rest => if b = ascii ']' then .ok rest else .error .malformed

/-- Fields in their order as the items of an array, of which `count` have been read. -/
def readPositional {σ : Type} (expected : String) :
    List (Field σ) → (count : Nat) → σ → Reader σ
  | [], _, state, input => (readArrayEnd input).map fun rest => (state, rest)
  | f :: fields, count, state, input =>
    match nextEntry (ascii ']') (count == 0) input with
    | .error e => .error e
    | .ok (.done rest) =>
      if (f :: fields).all (·.optional) then .ok (state, rest)
      else .error (.mismatch (.invalidLength count expected))
    | .ok (.more input) =>
      match f.read state input with
      | .error e => .error e
      | .ok (state, rest) => readPositional expected fields (count + 1) state rest

/-- A record called `name` in messages, read into `empty`. -/
def readRecord {σ : Type} (name : String) (fields : List (Field σ)) (empty : σ) : Reader σ :=
  fun input => do
    match ← readStart input with
    | .scalar v _ => wrongType v.found name
    | .array rest =>
      readPositional (recordExpectation name fields.length) fields 0 empty rest
    | .object rest =>
      let (state, rest) ←
        readMembers scanString (readMember fields) (rest.length + 1) true empty rest
      match missing? fields state with
      | some key => .error (.mismatch (.missingField key))
      | none => return (state, rest)

end ControlPlane.Json
