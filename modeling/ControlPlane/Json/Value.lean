import ControlPlane.Binary64.Basic

/-!
# JSON values

The values that a JSON text can denote. An object keeps its members in a list; the objects that
reading produces have their keys in increasing order, each key once.

## Main definitions

- `Json`: the values.
- `Json.putMember`: a member list with one more member, in key order.
- `Json.depth`: how deeply arrays and objects nest.
-/

namespace ControlPlane

/-- A number of a JSON text: a whole number, or a floating-point one. -/
inductive Json.Number
  | int (value : Int)
  | float (value : Binary64)
deriving DecidableEq

/-- A JSON value. -/
inductive Json
  | null
  | bool (value : Bool)
  | number (value : Json.Number)
  | string (value : String)
  | array (items : List Json)
  | object (members : List (String × Json))

namespace Json

mutual

/-- Equality of values is decided by structure. -/
def decEq (a b : Json) : Decidable (a = b) :=
  match a, b with
  | .null, .null => isTrue rfl
  | .bool x, .bool y => if h : x = y then isTrue (by rw [h]) else isFalse (by simpa using h)
  | .number x, .number y => if h : x = y then isTrue (by rw [h]) else isFalse (by simpa using h)
  | .string x, .string y => if h : x = y then isTrue (by rw [h]) else isFalse (by simpa using h)
  | .array x, .array y =>
    match decEqItems x y with
    | isTrue h => isTrue (by rw [h])
    | isFalse h => isFalse (by simpa using h)
  | .object x, .object y =>
    match decEqMembers x y with
    | isTrue h => isTrue (by rw [h])
    | isFalse h => isFalse (by simpa using h)
  | .null, .bool _ | .null, .number _ | .null, .string _ | .null, .array _ | .null, .object _
  | .bool _, .null | .bool _, .number _ | .bool _, .string _ | .bool _, .array _
  | .bool _, .object _ | .number _, .null | .number _, .bool _ | .number _, .string _
  | .number _, .array _ | .number _, .object _ | .string _, .null | .string _, .bool _
  | .string _, .number _ | .string _, .array _ | .string _, .object _ | .array _, .null
  | .array _, .bool _ | .array _, .number _ | .array _, .string _ | .array _, .object _
  | .object _, .null | .object _, .bool _ | .object _, .number _ | .object _, .string _
  | .object _, .array _ => isFalse (by simp)
  termination_by structural a

/-- Equality of item lists. -/
def decEqItems (a b : List Json) : Decidable (a = b) :=
  match a, b with
  | [], [] => isTrue rfl
  | x :: xs, y :: ys =>
    match decEq x y, decEqItems xs ys with
    | isTrue h, isTrue g => isTrue (by rw [h, g])
    | isFalse h, _ => isFalse (by simp [h])
    | _, isFalse h => isFalse (by simp [h])
  | [], _ :: _ | _ :: _, [] => isFalse (by simp)
  termination_by structural a

/-- Equality of member lists. -/
def decEqMembers (a b : List (String × Json)) : Decidable (a = b) :=
  match a, b with
  | [], [] => isTrue rfl
  | x :: xs, y :: ys =>
    match decEqMember x y, decEqMembers xs ys with
    | isTrue h, isTrue g => isTrue (by rw [h, g])
    | isFalse h, _ => isFalse (by simp [h])
    | _, isFalse h => isFalse (by simp [h])
  | [], _ :: _ | _ :: _, [] => isFalse (by simp)
  termination_by structural a

/-- Equality of members. -/
def decEqMember (a b : String × Json) : Decidable (a = b) :=
  match a, b with
  | (k, v), (l, w) =>
    if h : k = l then
      match decEq v w with
      | isTrue g => isTrue (by rw [h, g])
      | isFalse g => isFalse (by simp [g])
    else isFalse (by simp [h])
  termination_by structural a

end

instance : DecidableEq Json := decEq

/-- A natural number as a value. -/
def ofNat (n : Nat) : Json := .number (.int n)

/-- `members` with the value of `key` set to `value`; a list in key order stays in key order. -/
def putMember (members : List (String × Json)) (key : String) (value : Json) :
    List (String × Json) :=
  match members with
  | [] => [(key, value)]
  | (k, v) :: rest =>
    if key < k then (key, value) :: (k, v) :: rest
    else if key = k then (key, value) :: rest
    else (k, v) :: putMember rest key value

/-- The value of `key`, if an object has it. -/
def member? (v : Json) (key : String) : Option Json :=
  match v with
  | .object members => (members.find? (·.1 == key)).map (·.2)
  | _ => none

mutual

/-- How deeply arrays and objects nest in a value. -/
def depth : Json → Nat
  | .array items => itemsDepth items + 1
  | .object members => membersDepth members + 1
  | _ => 0
  termination_by structural v => v

/-- The greatest depth among items. -/
def itemsDepth : List Json → Nat
  | [] => 0
  | v :: rest => max (depth v) (itemsDepth rest)
  termination_by structural vs => vs

/-- The greatest depth among the values of members. -/
def membersDepth : List (String × Json) → Nat
  | [] => 0
  | m :: rest => max (memberDepth m) (membersDepth rest)
  termination_by structural ms => ms

/-- The depth of the value of a member. -/
def memberDepth : String × Json → Nat
  | (_, v) => depth v
  termination_by structural m => m

end

end Json

end ControlPlane
