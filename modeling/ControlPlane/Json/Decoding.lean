import ControlPlane.Json.Fault

/-!
# Values of known shape

What a JSON value means where strings, numbers of a fixed width, lists or records are wanted, or
which mismatch it shows first.

## Main definitions

- `Json.asText`, `Json.asUnsigned`, `Json.asList`: the simple shapes.
- `Json.asRecord₁`, `Json.asRecord₂`: records of one and of two fields.
-/

namespace ControlPlane.Json

/-- A string. -/
def asText : Json → Except Mismatch String
  | .string s => .ok s
  | v => .error (.invalidType v.found "a string")

/-- A whole number below `2 ^ bits`. -/
def asUnsigned (bits : Nat) : Json → Except Mismatch Nat
  | .number (.int n) =>
    if 0 ≤ n ∧ n.toNat < 1 <<< bits then .ok n.toNat
    else .error (.invalidValue (.int n) ("u" ++ toString bits))
  | v => .error (.invalidType v.found ("u" ++ toString bits))

/-- The items of a list in order, up to the first that is wrong. -/
def asItems {α : Type} (item : Json → Except Mismatch α) : List Json → Except Mismatch (List α)
  | [] => .ok []
  | v :: rest =>
    match item v with
    | .error e => .error e
    | .ok a =>
      match asItems item rest with
      | .error e => .error e
      | .ok as => .ok (a :: as)

/-- A list of what `item` accepts. -/
def asList {α : Type} (item : Json → Except Mismatch α) : Json → Except Mismatch (List α)
  | .array items => asItems item items
  | v => .error (.invalidType v.found "a sequence")

/-- A field of a record: its key and what its value means. -/
structure Slot (α : Type) where
  key : String
  decode : Json → Except Mismatch α

/-- The value of a slot, if a member with its key has been met. -/
def Slot.fill {α : Type} (s : Slot α) (old : Option α) (key : String) (v : Json) :
    Except Mismatch (Option α) :=
  if key = s.key then
    match s.decode v with
    | .error e => .error e
    | .ok a => .ok (some a)
  else .ok old

/-- The value of a slot that must have been filled. -/
def Slot.required {α : Type} (s : Slot α) : Option α → Except Mismatch α
  | some a => .ok a
  | none => .error (.missingField s.key)

/-- One slot filled from members in their order. -/
def fill₁ {α : Type} (s : Slot α) : Option α → List (String × Json) → Except Mismatch (Option α)
  | a, [] => .ok a
  | a, (key, v) :: rest =>
    match s.fill a key v with
    | .error e => .error e
    | .ok a => fill₁ s a rest

/-- A record of one field called `name` in messages, as an object or as an array of the field. -/
def asRecord₁ {α : Type} (wording : LengthWording) (name : String) (s : Slot α) :
    Json → Except Mismatch α
  | .object members =>
    match fill₁ s none members with
    | .error e => .error e
    | .ok a => s.required a
  | .array [] => .error (.invalidLength 0 (recordExpectation name 1))
  | .array (v :: rest) =>
    match s.decode v with
    | .error e => .error e
    | .ok a =>
      if rest.isEmpty then .ok a
      else .error (.invalidLength (rest.length + 1) (wording.text 1))
  | v => .error (.invalidType v.found name)

/-- Two slots filled from members in their order. -/
def fill₂ {α β : Type} (s : Slot α) (t : Slot β) :
    Option α → Option β → List (String × Json) → Except Mismatch (Option α × Option β)
  | a, b, [] => .ok (a, b)
  | a, b, (key, v) :: rest =>
    match s.fill a key v with
    | .error e => .error e
    | .ok a =>
      match t.fill b key v with
      | .error e => .error e
      | .ok b => fill₂ s t a b rest

/-- A record of two fields called `name` in messages, as an object or as an array of the fields.
Members are met in their order; a missing field is reported after all of them. -/
def asRecord₂ {α β : Type} (wording : LengthWording) (name : String) (s : Slot α) (t : Slot β) :
    Json → Except Mismatch (α × β)
  | .object members =>
    match fill₂ s t none none members with
    | .error e => .error e
    | .ok (a, b) =>
      match s.required a, t.required b with
      | .error e, _ => .error e
      | _, .error e => .error e
      | .ok a, .ok b => .ok (a, b)
  | .array [] => .error (.invalidLength 0 (recordExpectation name 2))
  | .array [v] =>
    match s.decode v with
    | .error e => .error e
    | .ok _ => .error (.invalidLength 1 (recordExpectation name 2))
  | .array (v :: w :: rest) =>
    match s.decode v, t.decode w with
    | .error e, _ => .error e
    | _, .error e => .error e
    | .ok a, .ok b =>
      if rest.isEmpty then .ok (a, b)
      else .error (.invalidLength (rest.length + 2) (wording.text 2))
  | v => .error (.invalidType v.found name)

end ControlPlane.Json
