import ControlPlane.Shell.Arithmetic

/-!
# Formatted text of a shell

Texts in which backslashes stand for characters that are hard to write, and formats whose directives
are filled with arguments.

## Main definitions

- `Format.unescape`: a text with its escapes replaced.
- `Format.read`: the directives of a format.
- `Format.fill`: what a format comes to with some arguments.
-/

namespace ControlPlane.Shell.Format

/-- The characters behind a backslash that stand for one character. -/
def escapes : List (Char × Nat) :=
  [('a', 7), ('b', 8), ('f', 12), ('n', 10), ('r', 13), ('t', 9), ('v', 11), ('\\', 92)]

/-- Whether a character is an octal digit. -/
def isOctal (c : Char) : Bool := '0' ≤ c && c ≤ '7'

/-- The character with the number that octal digits denote. -/
def octal (digits : List Char) : Char := Char.ofNat (Nat.ofDigitChars 8 digits 0 % 256)

/-- A text with its escapes replaced, and whether nothing is to follow it. Octal numbers have up to
three digits; `zero` says that a zero stands in front of them. -/
def unescape (zero : Bool) : List Char → List Char × Bool
  | [] => ([], false)
  | '\\' :: c :: rest =>
    if zero && c == 'c' then ([], true)
    else
      match escapes.find? (·.1 == c) with
      | some (_, n) =>
        let (cs, ends) := unescape zero rest
        (Char.ofNat n :: cs, ends)
      | none =>
        if isOctal c && (!zero || c == '0') then
          let ds := if zero then (rest.take 3).takeWhile isOctal
            else c :: (rest.take 2).takeWhile isOctal
          let (cs, ends) := unescape zero (rest.drop (ds.length - if zero then 0 else 1))
          (octal ds :: cs, ends)
        else
          let (cs, ends) := unescape zero rest
          ('\\' :: c :: cs, ends)
  | c :: rest =>
    let (cs, ends) := unescape zero rest
    (c :: cs, ends)
termination_by cs => cs.length
decreasing_by all_goals (simp only [List.length_cons, List.length_drop]; omega)

/-- A number in a directive: one that stands there, or that of the next argument. -/
inductive Count
  | given (n : Nat)
  | argument
deriving DecidableEq

/-- A part of a format. -/
inductive Directive
  | char (c : Char)
  /-- An argument is written. The text is that of the directive itself. -/
  | convert (text flags : List Char) (width precision : Option Count) (kind : Char)
  /-- The format ends before the kind of the directive. -/
  | unfinished
deriving DecidableEq

/-- The number at the front of a format, and what follows it. -/
def readCount (cs : List Char) : Option Count × List Char :=
  match cs with
  | '*' :: rest => (some .argument, rest)
  | _ =>
    match Text.decimal? (cs.takeWhile Char.isDigit) with
    | some n => (some (.given n), cs.dropWhile Char.isDigit)
    | none => (none, cs)

/-- The directive behind a percent sign, and what follows it. -/
def readDirective (cs : List Char) : Directive × List Char :=
  let isFlag (c : Char) : Bool := ['-', '+', ' ', '#', '0'].contains c
  let flags := cs.takeWhile isFlag
  let (width, rest) := readCount (cs.dropWhile isFlag)
  let (precision, rest) := match rest with
    | '.' :: rest =>
      let (count, rest) := readCount rest
      (some (count.getD (.given 0)), rest)
    | _ => (none, rest)
  match rest with
  | kind :: rest =>
    (.convert ('%' :: cs.take (cs.length - rest.length)) flags width precision kind, rest)
  | [] => (.unfinished, [])

/-- At most `fuel` parts of a format. -/
def read : (fuel : Nat) → List Char → List Directive
  | 0, _ => []
  | _, [] => []
  | fuel + 1, '%' :: '%' :: rest => .char '%' :: read fuel rest
  | fuel + 1, '%' :: rest =>
    let (d, rest) := readDirective rest
    d :: read fuel rest
  | fuel + 1, c :: rest => .char c :: read fuel rest

/-- What can be wrong with an argument that should be a number. -/
inductive Misfit
  /-- No number stands in front. -/
  | noNumber
  /-- Something follows the number. -/
  | leftover
  | outOfRange
deriving DecidableEq

/-- What is said of an argument that should be a number. -/
def Misfit.message : Misfit → String
  | .noNumber => "expected numeric value"
  | .leftover => "not completely converted"
  | .outOfRange => "Numerical result out of range"

/-- The number at the front of a text, the nearest one of 64 bits, and what is wrong with the
text. -/
def readNumber (signed : Bool) (text : List Char) : Int × Option Misfit :=
  let (negative, digits) := match text.dropWhile isSpace with
    | '-' :: rest => (true, rest)
    | '+' :: rest => (false, rest)
    | rest => (false, rest)
  if !(digits.head?.any Char.isDigit) then (0, some .noNumber)
  else
    let (n, rest) := Expression.numeral digits
    let value : Int := if negative then -n else n
    let most : Int := if signed then 9223372036854775807 else 18446744073709551615
    let least : Int := if signed then -9223372036854775808 else -18446744073709551615
    let nearest := if least ≤ value && value ≤ most then value
      else if signed && negative then least else most
    (nearest, if !rest.isEmpty then some .leftover
      else if nearest != value then some .outOfRange else none)

/-- A format that is being filled. -/
structure Filling where
  arguments : List String
  /-- What has been written. -/
  text : List Char := []
  /-- The arguments that should have been numbers, with what is wrong with them. -/
  wrong : List (String × Misfit) := []
  /-- Whether nothing more is written. -/
  ends : Bool := false
  /-- What is said of a directive that makes no sense, if one has been met. -/
  senseless : Option String := none
deriving DecidableEq

namespace Filling

/-- The next argument, if there is one. -/
def next (f : Filling) : Option String × Filling :=
  (f.arguments.head?, { f with arguments := f.arguments.drop 1 })

/-- The number of the next argument. A character behind a quote is the number of its first byte. -/
def nextNumber (signed : Bool) (f : Filling) : Int × Filling :=
  let (argument, f) := f.next
  match argument with
  | none => (0, f)
  | some text =>
    let byte (cs : List Char) : Int := match (String.ofList cs).toUTF8.data[0]? with
      | some b => b.toNat
      | none => 0
    match text.toList with
    | [] => (0, f)
    | '\'' :: rest => (byte rest, f)
    | '"' :: rest => (byte rest, f)
    | cs =>
      let (n, misfit) := readNumber signed cs
      (n, { f with wrong := f.wrong ++ misfit.toList.map (text, ·) })

/-- The number that a directive gives, or takes from the next argument. -/
def count (c : Option Count) (f : Filling) : Option Int × Filling :=
  match c with
  | none => (none, f)
  | some (.given n) => (some n, f)
  | some .argument =>
    let (n, f) := f.nextNumber true
    (some n, f)

end Filling

/-- A text made up to a width by blanks, or by zeros behind a sign. -/
def pad (flags : List Char) (width : Nat) (zeros : Bool) (text : List Char) : List Char :=
  let missing := width - text.length
  if flags.contains '-' then text ++ List.replicate missing ' '
  else if zeros && flags.contains '0' then
    let sign := text.takeWhile fun c => c == '-' || c == '+' || c == ' '
    sign ++ List.replicate missing '0' ++ text.drop sign.length
  else List.replicate missing ' ' ++ text

/-- The digits of a natural number, at least so many. -/
def digits (base : Nat) (precision : Option Nat) (n : Nat) : List Char :=
  let ds := if n == 0 && precision == some 0 then [] else Nat.toDigits base n
  List.replicate (precision.getD 1 - ds.length) '0' ++ ds

/-- The text of a whole number as a directive of some kind says it; nothing if there is no such
kind. -/
def numberText? (flags : List Char) (precision : Option Nat) (kind : Char) (n : Int) :
    Option (List Char) :=
  let unsigned := (n % 18446744073709551616).toNat
  let alternate := flags.contains '#' && unsigned != 0
  if kind == 'd' || kind == 'i' then
    let sign := if n < 0 then ['-'] else if flags.contains '+' then ['+']
      else if flags.contains ' ' then [' '] else []
    some (sign ++ digits 10 precision n.natAbs)
  else if kind == 'u' then some (digits 10 precision unsigned)
  else if kind == 'o' then some ((if alternate then ['0'] else []) ++ digits 8 precision unsigned)
  else if kind == 'x' then
    some ((if alternate then ['0', 'x'] else []) ++ digits 16 precision unsigned)
  else if kind == 'X' then
    some ((if alternate then ['0', 'X'] else []) ++ (digits 16 precision unsigned).map Char.toUpper)
  else none

/-- The next part of a format is written. -/
def Filling.put (f : Filling) : Directive → Filling
  | .char c => if f.ends || f.senseless.isSome then f else { f with text := f.text ++ [c] }
  | .unfinished =>
    if f.ends || f.senseless.isSome then f
    else { f with senseless := some "missing format character" }
  | .convert text flags width precision kind =>
    if f.ends || f.senseless.isSome then f
    else
      let (width, f) := f.count width
      let (precision, f) := f.count precision
      let flags := if width.any (· < 0) then '-' :: flags else flags
      let width := (width.getD 0).natAbs
      let precision := (precision.filter (0 ≤ ·)).map Int.toNat
      let cut (cs : List Char) : List Char := match precision with
        | some n => cs.take n
        | none => cs
      let write (f : Filling) (zeros : Bool) (cs : List Char) : Filling :=
        { f with text := f.text ++ pad flags width zeros cs }
      if kind == 's' then
        let (argument, f) := f.next
        write f false (cut (argument.getD "").toList)
      else if kind == 'c' then
        let (argument, f) := f.next
        write f false [(argument.getD "").toList.headD '\x00']
      else if kind == 'b' then
        let (argument, f) := f.next
        let (cs, ends) := unescape true (argument.getD "").toList
        write { f with ends } false (cut cs)
      else
        let (n, after) := f.nextNumber (kind == 'd' || kind == 'i')
        match numberText? flags precision kind n with
        | some cs => write after precision.isNone cs
        | none => { f with senseless := some (String.ofList text ++ ": invalid directive") }

/-- What a format comes to with some arguments. It is used again, at most `fuel` times, as long as
it uses up arguments and there are some left. -/
def fill (format : List Directive) : (fuel : Nat) → Filling → Filling
  | 0, f => f
  | fuel + 1, f =>
    let after := format.foldl Filling.put f
    if after.ends || after.senseless.isSome || after.arguments.isEmpty ||
        after.arguments.length = f.arguments.length then after
    else fill format fuel after

/-- What a format comes to with some arguments. -/
def ofArguments (format : String) (arguments : List String) : Filling :=
  let (cs, ends) := unescape false format.toList
  let f := fill (read cs.length cs) (arguments.length + 1) { arguments }
  { f with ends := f.ends || ends }

end ControlPlane.Shell.Format
