import ControlPlane.Binary64.Shortest
import ControlPlane.Json.Value
import ControlPlane.Text.Quoted

/-!
# What can be wrong with a JSON text

A text can end too early, break the grammar, or denote a value of another shape than the one that
was wanted. The last kind says what was found and what was wanted.

## Main definitions

- `Json.Mismatch`: a value of another shape than the wanted one.
- `Json.Fault`: everything that can be wrong with a text.
-/

namespace ControlPlane.Json

/-- What stands where something else was wanted. -/
inductive Found
  | null
  | bool (value : Bool)
  | int (value : Int)
  | float (value : Binary64)
  | string (value : String)
  | sequence
  | map
deriving DecidableEq

/-- What a value is, seen from a place that wants another one. -/
def found : Json → Found
  | .null => .null
  | .bool b => .bool b
  | .number (.int n) => .int n
  | .number (.float x) => .float x
  | .string s => .string s
  | .array _ => .sequence
  | .object _ => .map

/-- The words for what was found. -/
def Found.text : Found → String
  | .null => "null"
  | .bool true => "boolean `true`"
  | .bool false => "boolean `false`"
  | .int n => "integer `" ++ toString n ++ "`"
  | .float x => "floating point `" ++ x.text ++ "`"
  | .string s => "string " ++ Text.quoted s
  | .sequence => "sequence"
  | .map => "map"

/-- A value of another shape than the wanted one. -/
inductive Mismatch
  /-- A value of another type. -/
  | invalidType (found : Found) (expected : String)
  /-- A value of the right type outside the wanted range. -/
  | invalidValue (found : Found) (expected : String)
  /-- An array with too few or too many items. -/
  | invalidLength (length : Nat) (expected : String)
  /-- An object without a member it must have. -/
  | missingField (name : String)
  /-- An object with a known member twice. -/
  | duplicateField (name : String)
  /-- A tag that names none of the alternatives. -/
  | unknownVariant (name : String) (expected : List String)
deriving DecidableEq

/-- Names as they are listed in a message. -/
def nameList : List String → String
  | [] => ""
  | [a] => "`" ++ a ++ "`"
  | [a, b] => "`" ++ a ++ "` or `" ++ b ++ "`"
  | a :: rest => rest.foldl (fun text b => text ++ ", `" ++ b ++ "`") ("one of `" ++ a ++ "`")

/-- The words for a mismatch. -/
def Mismatch.message : Mismatch → String
  | .invalidType f e => "invalid type: " ++ f.text ++ ", expected " ++ e
  | .invalidValue f e => "invalid value: " ++ f.text ++ ", expected " ++ e
  | .invalidLength n e => "invalid length " ++ toString n ++ ", expected " ++ e
  | .missingField name => "missing field `" ++ name ++ "`"
  | .duplicateField name => "duplicate field `" ++ name ++ "`"
  | .unknownVariant name expected =>
    "unknown variant `" ++ name ++ "`, expected " ++ nameList expected

/-- Why a JSON text is refused. -/
inductive Fault
  /-- The text ends before the value does. -/
  | endOfInput
  /-- The text breaks the grammar, nests too deeply or holds a number that is too large. -/
  | malformed
  /-- The text denotes a value of another shape. -/
  | mismatch (cause : Mismatch)
deriving DecidableEq

/-- The class of a fault. -/
def Fault.category : Fault → String
  | .endOfInput => "eof"
  | .malformed => "syntax"
  | .mismatch _ => "data"

/-- The words for a fault; only mismatches have words of their own. -/
def Fault.message : Fault → String
  | .endOfInput => "<eof>"
  | .malformed => "<syntax>"
  | .mismatch m => m.message

/-- Two wordings of the complaint about an array that is too long. -/
inductive LengthWording
  /-- Only that there should be fewer. -/
  | fewer
  /-- How many there should be. -/
  | exactly
deriving DecidableEq

/-- `1 element` or `n elements`. -/
def elementCount (n : Nat) : String :=
  if n = 1 then "1 element" else toString n ++ " elements"

/-- What is said to be expected of an array with more than `wanted` items. -/
def LengthWording.text (wording : LengthWording) (wanted : Nat) : String :=
  match wording with
  | .fewer => "fewer elements in array"
  | .exactly => elementCount wanted ++ " in sequence"

/-- What is said to be expected where a record is wanted as an array of its fields. -/
def recordExpectation (record : String) (fields : Nat) : String :=
  record ++ " with " ++ elementCount fields

end ControlPlane.Json
