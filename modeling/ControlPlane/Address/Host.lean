import ControlPlane.Text.Numeral
import ControlPlane.Text.Split
import ControlPlane.Text.Utf8

/-!
# Hosts given by numbers

A host of version 4 is a number of 32 bits, written as one to four parts with dots between them; the
last part fills all octets that are left. Parts may be decimal, octal or hexadecimal.

A host of version 6 is a number of 128 bits, written as groups of hexadecimal digits with colons
between them. Two colons stand for a run of zero groups, and the last two groups may be written as
four decimal octets. A scope may follow behind a percent sign.

## Main definitions

- `Host`: a host.
- `Host.version4?`, `Host.version6?`: the host that a text denotes.
-/

namespace ControlPlane

/-- A host with a number. -/
inductive Host
  | version4 (number : Nat)
  /-- `scope` tells the interface for hosts that are only known there. -/
  | version6 (number scope : Nat)
deriving DecidableEq

namespace Host

/-- The number that digits denote to a base up to sixteen; there must be one at least. -/
def digits? (base : Nat) (digits : List Char) : Option Nat :=
  if digits.isEmpty then none
  else
    digits.foldl
      (fun n c => do
        let n ← n
        let d ← Text.hexValue? c
        if d < base then some (base * n + d) else none)
      (some 0)

/-- The number of a part of a host of version 4: hexadecimal after `0x`, octal after another zero,
and decimal otherwise. -/
def part? : List Char → Option Nat
  | '0' :: 'x' :: rest => digits? 16 rest
  | '0' :: 'X' :: rest => digits? 16 rest
  | '0' :: c :: rest => digits? 8 (c :: rest)
  | cs => digits? 10 cs

/-- The number of a host of version 4 with the given parts. All but the last one are octets. -/
def ofParts? (parts : List Nat) : Option Nat :=
  let firsts := parts.dropLast
  let last := parts.getLast?.getD 0
  let rest := Nat.pow 256 (4 - firsts.length)
  if 1 ≤ parts.length ∧ parts.length ≤ 4 ∧ firsts.all (· < 256) ∧ last < rest then
    some (firsts.foldl (fun n p => 256 * n + p) 0 * rest + last)
  else none

/-- The host of version 4 that a text denotes. -/
def version4? (text : List Char) : Option Host := do
  let parts ← (Text.split '.' text).mapM part?
  (ofParts? parts).map .version4

/-- The octet that up to three decimal digits denote, without a zero before others. -/
def octet? (digits : List Char) : Option Nat :=
  if digits.head? = some '0' ∧ digits.length ≠ 1 then none
  else ((Text.decimal? digits).filter (· < 256)).filter fun _ => digits.length ≤ 3

/-- The two groups of four decimal octets. -/
def octetGroups? (text : List Char) : Option (List Nat) := do
  match ← (Text.split '.' text).mapM octet? with
  | [a, b, c, d] => some [256 * a + b, 256 * c + d]
  | _ => none

/-- The group that one to four hexadecimal digits denote. -/
def group? (digits : List Char) : Option Nat :=
  (digits? 16 digits).filter fun _ => digits.length ≤ 4

/-- The groups between colons; the last ones may be decimal octets. -/
def groups? : List (List Char) → Option (List Nat)
  | [] => some []
  | [last] => ((group? last).map ([·])).or (octetGroups? last)
  | first :: rest => do return (← group? first) :: (← groups? rest)

/-- A text before and after its first two colons in a row, if it has some. -/
def splitDouble : List Char → Option (List Char × List Char)
  | ':' :: ':' :: rest => some ([], rest)
  | [] => none
  | c :: rest => (splitDouble rest).map fun (before, after) => (c :: before, after)

/-- The groups of a text without two colons in a row, of which there may be none. -/
def run? (text : List Char) : Option (List Nat) :=
  if text.isEmpty then some [] else groups? (Text.split ':' text)

/-- The groups of a host of version 6, those included that two colons stand for. -/
def groups6? (text : List Char) : Option (List Nat) :=
  match splitDouble text with
  | none => run? text
  | some (before, after) => do
    let head ← run? before
    let tail ← run? after
    if before.contains '.' ∨ 7 < head.length + tail.length then none
    else some (head ++ List.replicate (8 - (head.length + tail.length)) 0 ++ tail)

/-- The number of 128 bits that a text denotes in groups. -/
def number6? (text : List Char) : Option Nat := do
  let groups ← groups6? text
  if groups.length = 8 then some (groups.foldl (fun n g => 65536 * n + g) 0) else none

/-- Where the numbers begin that stand for hosts of version 4. -/
def mapped : Nat := 0xFFFF00000000

/-- A host of version 6; those that stand for hosts of version 4 are these. -/
def ofNumber6 (number scope : Nat) : Host :=
  if mapped ≤ number ∧ number < mapped + UInt32.size then .version4 (number - mapped)
  else .version6 number scope

/-- The host of version 6 that a text denotes. -/
def version6? (text : List Char) : Option Host := do
  let number ← number6? (text.takeWhile (· != '%'))
  match text.dropWhile (· != '%') with
  | [] => return ofNumber6 number 0
  | _ :: scope => return ofNumber6 number (← (Text.decimal? scope).filter (· < UInt32.size))

end Host

end ControlPlane
