import ControlPlane.Text.Utf8

/-!
# Patterns of a shell

A pattern is a text in which some characters stand for others. A character that was quoted stands
for itself. Patterns know of octets only, so a character of several octets counts as several.

## Main definitions

- `Pattern.Atom`: what a pattern is made of.
- `Pattern.octets`: a text as patterns see it.
- `Pattern.read`: the atoms of a text.
- `Pattern.accepts`: whether a pattern fits a text.
- `Pattern.trimStart`, `Pattern.trimEnd`: a text without an end that a pattern fits.
-/

namespace ControlPlane.Shell

namespace Pattern

/-- A member of a set of characters. -/
inductive Member
  | range (first last : Char)
  /-- A class of characters that has a name. -/
  | named (name : String)
deriving DecidableEq

/-- What a pattern is made of. -/
inductive Atom
  | char (c : Char)
  /-- Any one character. -/
  | any
  /-- Any characters. -/
  | many
  /-- One character of a set, or none of a set. -/
  | oneOf (inside : Bool) (members : List Member)
deriving DecidableEq

/-- The octets of a text, each as the character with its number. -/
def octets (text : List Char) : List Char :=
  text.flatMap fun c =>
    if c.toNat < 128 then [c] else (Text.utf8Char c).map fun b => Char.ofNat b.toNat

/-- The text that has some octets, of which those that make no character stand for a sign of
that. -/
def ofOctets (cs : List Char) : List Char :=
  match Text.ofUtf8? (cs.map fun c => UInt8.ofNat c.toNat) with
  | some text => text.toList
  | none => cs.map fun c => if c.toNat < 128 then c else '\uFFFD'

/-- Whether a character is in the class with a name. -/
def isInClass (name : String) (c : Char) : Bool :=
  match name with
  | "alnum" => c.isAlphanum
  | "alpha" => c.isAlpha
  | "blank" => c == ' ' || c == '\t'
  | "cntrl" => c.toNat < 32 || c.toNat == 127
  | "digit" => c.isDigit
  | "graph" => 32 < c.toNat && c.toNat < 127
  | "lower" => c.isLower
  | "print" => 32 ≤ c.toNat && c.toNat < 127
  | "punct" => 32 < c.toNat && c.toNat < 127 && !c.isAlphanum
  | "space" => c == ' ' || (9 ≤ c.toNat && c.toNat ≤ 13)
  | "upper" => c.isUpper
  | "xdigit" => c.isDigit || ('a' ≤ c && c ≤ 'f') || ('A' ≤ c && c ≤ 'F')
  | _ => false

/-- Whether a character belongs to a member of a set. -/
def Member.has (c : Char) : Member → Bool
  | .range first last => first ≤ c && c ≤ last
  | .named name => isInClass name c

/-- Whether one character fits an atom. -/
def Atom.fits (c : Char) : Atom → Bool
  | .char d => c == d
  | .any => true
  | .many => false
  | .oneOf inside members => members.any (·.has c) == inside

/-- The members of a set up to its end, and what follows it; nothing if it does not end. The first
member may be a closing bracket. -/
def readMembers (first : Bool) : List (Bool × Char) → Option (List Member × List (Bool × Char))
  | [] => none
  | (false, ']') :: rest =>
    if first then (readMembers false rest).map fun (ms, rest) => (.range ']' ']' :: ms, rest)
    else some ([], rest)
  | (false, '[') :: (false, ':') :: rest =>
    let name := (rest.takeWhile fun (_, c) => c.isAlpha).map (·.2)
    match h : rest.dropWhile fun (_, c) => c.isAlpha with
    | (_, ':') :: (_, ']') :: after =>
      have : (rest.dropWhile fun (_, c) => c.isAlpha).length ≤ rest.length :=
        (List.dropWhile_sublist _).length_le
      have : after.length < rest.length := by simp only [h, List.length_cons] at this; omega
      (readMembers false after).map fun (ms, rest) => (.named (String.ofList name) :: ms, rest)
    | _ =>
      (readMembers false ((false, ':') :: rest)).map fun (ms, rest) => (.range '[' '[' :: ms, rest)
  | (_, a) :: (false, '-') :: (q, b) :: rest =>
    if b == ']' && !q then
      (readMembers false ((false, '-') :: (q, b) :: rest)).map fun (ms, rest) =>
        (.range a a :: ms, rest)
    else (readMembers false rest).map fun (ms, rest) => (.range a b :: ms, rest)
  | (_, a) :: rest => (readMembers false rest).map fun (ms, rest) => (.range a a :: ms, rest)
termination_by cs => cs.length

/-- The set behind its opening bracket, and what follows it. A set that begins with the sign `not`
is that of all other characters. -/
def readSet (not : Char) : List (Bool × Char) → Option (Atom × List (Bool × Char))
  | (quoted, c) :: rest =>
    if !quoted && c == not then
      (readMembers true rest).map fun (ms, rest) => (.oneOf false ms, rest)
    else (readMembers true ((quoted, c) :: rest)).map fun (ms, rest) => (.oneOf true ms, rest)
  | [] => none

/-- At most `fuel` atoms of a text, whose characters are quoted or not. -/
def readUpTo : (fuel : Nat) → List (Bool × Char) → List Atom
  | 0, _ => []
  | _, [] => []
  | fuel + 1, (true, c) :: rest => .char c :: readUpTo fuel rest
  | fuel + 1, (false, c) :: rest =>
    if c == '?' then .any :: readUpTo fuel rest
    else if c == '*' then .many :: readUpTo fuel rest
    else if c == '[' then
      match readSet '!' rest with
      | some (atom, after) => atom :: readUpTo fuel after
      | none => .char c :: readUpTo fuel rest
    else .char c :: readUpTo fuel rest

/-- The atoms of a text, whose characters are quoted or not. -/
def read (text : List (Bool × Char)) : List Atom :=
  let text := text.flatMap fun (quoted, c) => (octets [c]).map (quoted, ·)
  readUpTo text.length text

/-- Whether a text has an end for which `p` holds; the text itself is one. -/
def anySuffix (p : List Char → Bool) : List Char → Bool
  | [] => p []
  | c :: cs => p (c :: cs) || anySuffix p cs

/-- Whether a pattern fits the whole of some octets. -/
def covers : List Atom → List Char → Bool
  | [], cs => cs.isEmpty
  | .many :: rest, cs => anySuffix (covers rest) cs
  | atom :: rest, c :: cs => atom.fits c && covers rest cs
  | _ :: _, [] => false

/-- Whether a pattern fits a whole text. -/
def accepts (pattern : List Atom) (text : List Char) : Bool := covers pattern (octets text)

/-- A text without the shortest or longest part at its start that a pattern fits. -/
def trimStart (longest : Bool) (pattern : List Atom) (text : List Char) : List Char :=
  let cs := octets text
  let lengths := List.range (cs.length + 1)
  match (if longest then lengths.reverse else lengths).find? fun n =>
      covers pattern (cs.take n) with
  | some n => ofOctets (cs.drop n)
  | none => text

/-- A text without the shortest or longest part at its end that a pattern fits. -/
def trimEnd (longest : Bool) (pattern : List Atom) (text : List Char) : List Char :=
  let cs := octets text
  let lengths := List.range (cs.length + 1)
  match (if longest then lengths else lengths.reverse).find? fun n =>
      covers pattern (cs.drop n) with
  | some n => ofOctets (cs.take n)
  | none => text

end Pattern

end ControlPlane.Shell
