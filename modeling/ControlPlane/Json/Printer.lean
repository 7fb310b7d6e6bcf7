import ControlPlane.Binary64.Shortest
import ControlPlane.Json.Value
import ControlPlane.Text.Utf8

/-!
# Writing JSON

The compact text of a value, as octets: no blanks, members in the order of the value, and escapes
only where a string needs them. `Json.pretty` is the same text spread over indented lines.

## Main definitions

- `Json.printString`: a string between quotes.
- `Json.print`: the compact text of a value.
- `Json.pretty`: the indented text of a value.
-/

namespace ControlPlane.Json

/-- The octet of an ASCII character. -/
def ascii (c : Char) : UInt8 := UInt8.ofNat c.toNat

/-- The octets of ASCII characters. -/
def asciiList (cs : List Char) : List UInt8 := cs.map ascii

/-- One octet of a string between quotes. Octets from 32 up, quote and backslash apart, stand for
themselves, among them all octets of characters beyond ASCII. -/
def escapeOctet (b : UInt8) : List UInt8 :=
  if b = ascii '"' then asciiList ['\\', '"']
  else if b = ascii '\\' then asciiList ['\\', '\\']
  else if b = 8 then asciiList ['\\', 'b']
  else if b = 12 then asciiList ['\\', 'f']
  else if b = 10 then asciiList ['\\', 'n']
  else if b = 13 then asciiList ['\\', 'r']
  else if b = 9 then asciiList ['\\', 't']
  else if b < 32 then
    asciiList ['\\', 'u', '0', '0', Text.hexDigit (b.toNat / 16), Text.hexDigit (b.toNat % 16)]
  else [b]

/-- A string between quotes. -/
def printString (s : String) : List UInt8 :=
  ascii '"' :: (Text.utf8 s).flatMap escapeOctet ++ [ascii '"']

/-- The decimal digits of a natural number. -/
def printNat (n : Nat) : List UInt8 := asciiList (Nat.toDigits 10 n)

/-- A number: whole ones as digits, the others in their shortest form. -/
def printNumber : Number → List UInt8
  | .int (.ofNat n) => printNat n
  | .int (.negSucc n) => ascii '-' :: printNat (n + 1)
  | .float x => Text.utf8 x.text

mutual

/-- The compact text of a value. -/
def print : Json → List UInt8
  | .null => asciiList ['n', 'u', 'l', 'l']
  | .bool true => asciiList ['t', 'r', 'u', 'e']
  | .bool false => asciiList ['f', 'a', 'l', 's', 'e']
  | .number n => printNumber n
  | .string s => printString s
  | .array items => ascii '[' :: printItems items ++ [ascii ']']
  | .object members => ascii '\x7b' :: printMembers members ++ [ascii '\x7d']
  termination_by structural v => v

/-- Items, with commas between them. -/
def printItems : List Json → List UInt8
  | [] => []
  | v :: rest => print v ++ printMoreItems rest
  termination_by structural vs => vs

/-- Items after the first, each with a comma before it. -/
def printMoreItems : List Json → List UInt8
  | [] => []
  | v :: rest => ascii ',' :: print v ++ printMoreItems rest
  termination_by structural vs => vs

/-- Members, with commas between them. -/
def printMembers : List (String × Json) → List UInt8
  | [] => []
  | m :: rest => printMember m ++ printMoreMembers rest
  termination_by structural ms => ms

/-- Members after the first, each with a comma before it. -/
def printMoreMembers : List (String × Json) → List UInt8
  | [] => []
  | m :: rest => ascii ',' :: printMember m ++ printMoreMembers rest
  termination_by structural ms => ms

/-- A key, a colon and the value. -/
def printMember : String × Json → List UInt8
  | (key, v) => printString key ++ ascii ':' :: print v
  termination_by structural m => m

end

/-- A new line with two blanks for each level. -/
def newLine (level : Nat) : List UInt8 := ascii '\n' :: List.replicate (2 * level) (ascii ' ')

mutual

/-- The indented text of a value at a nesting level: an empty array or object stays on its line,
and otherwise every item and member has a line of its own. -/
def prettyAt (level : Nat) : Json → List UInt8
  | .array [] => asciiList ['[', ']']
  | .object [] => asciiList ['\x7b', '\x7d']
  | .array (v :: rest) =>
    ascii '[' :: newLine (level + 1) ++ prettyAt (level + 1) v ++ prettyItems (level + 1) rest ++
      newLine level ++ [ascii ']']
  | .object (m :: rest) =>
    ascii '\x7b' :: newLine (level + 1) ++ prettyMember (level + 1) m ++
      prettyMembers (level + 1) rest ++ newLine level ++ [ascii '\x7d']
  | .null => print .null
  | .bool b => print (.bool b)
  | .number n => print (.number n)
  | .string s => print (.string s)
  termination_by structural v => v

/-- Items after the first, each on a new line. -/
def prettyItems (level : Nat) : List Json → List UInt8
  | [] => []
  | v :: rest => ascii ',' :: newLine level ++ prettyAt level v ++ prettyItems level rest
  termination_by structural vs => vs

/-- Members after the first, each on a new line. -/
def prettyMembers (level : Nat) : List (String × Json) → List UInt8
  | [] => []
  | m :: rest => ascii ',' :: newLine level ++ prettyMember level m ++ prettyMembers level rest
  termination_by structural ms => ms

/-- A key, a colon, a blank and the value. -/
def prettyMember (level : Nat) : String × Json → List UInt8
  | (key, v) => printString key ++ asciiList [':', ' '] ++ prettyAt level v
  termination_by structural m => m

end

/-- The indented text of a value. -/
def pretty (v : Json) : List UInt8 := prettyAt 0 v

end ControlPlane.Json
