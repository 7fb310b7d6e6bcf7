import ControlPlane.Shell.Search
import ControlPlane.Shell.Tools.Basic

/-!
# Programs for numbers and times

## Main definitions

- `seconds?`: the length of time that a text says.
- `sleepTool`, `seqTool`, `exprTool`: pauses, rows of numbers, and computations in words.
-/

namespace ControlPlane.Shell

/-- The length of time that a text says, in nanoseconds, without its unit; nothing for one that has
no end. -/
def plainSeconds? (text : List Char) : Option (Option Nat) :=
  let text := match text with
    | '+' :: rest => rest
    | _ => text
  if ["inf", "infinity"].contains (String.ofList text).toLower then some none
  else
    let whole := text.takeWhile Char.isDigit
    let rest := text.drop whole.length
    let fraction := match rest with
      | '.' :: digits => digits.takeWhile Char.isDigit
      | _ => []
    let rest := match rest with
      | '.' :: digits => digits.drop fraction.length
      | _ => rest
    if whole.isEmpty && fraction.isEmpty then none
    else
      let billionths := Nat.ofDigitChars 10 (whole ++ (fraction ++ List.replicate 9 '0').take 9) 0
      let more := (fraction.drop 9).any (· != '0')
      match rest with
      | [] => some (some (billionths + if more then 1 else 0))
      | e :: digits =>
        if e != 'e' && e != 'E' then none
        else
          let (down, digits) := match digits with
            | '-' :: digits => (true, digits)
            | '+' :: digits => (false, digits)
            | _ => (false, digits)
          (Text.decimal? digits).map fun n =>
            let power := Nat.pow 10 (min n 30)
            some (if down then billionths / power else billionths * power)

/-- The length of time that a text says, in nanoseconds, perhaps with a unit; nothing for one that
has no end. -/
def seconds? (text : String) : Option (Option Nat) :=
  let cs := text.toList
  let units : List (Char × Nat) := [('s', 1), ('m', 60), ('h', 3600), ('d', 86400)]
  match cs.getLast?.bind fun c => units.find? (·.1 == c) with
  | some (_, factor) => (plainSeconds? cs.dropLast).map fun d => d.map (factor * ·)
  | none => plainSeconds? cs

/-- A pause of several lengths. -/
def sleepTool : Tool := fun arguments => do
  let arguments := if arguments.head? == some "--" then arguments.drop 1 else arguments
  match arguments with
  | [] =>
    gripe "sleep" "missing operand\nTry 'sleep --help' for more information."
    return 1
  | word :: _ =>
    match word.toList with
    | '-' :: c :: _ =>
      if word == "--help" || word == "--version" then return 0
      gripe "sleep" ((if c == '-' then "unrecognized option '" ++ word
        else "invalid option -- '" ++ String.singleton c) ++
          "'\nTry 'sleep --help' for more information.")
      return 1
    | _ =>
      match arguments.find? fun a => (seconds? a).isNone with
      | some wrong =>
        gripe "sleep" ("invalid time interval '" ++ wrong ++
          "'\nTry 'sleep --help' for more information.")
        return 1
      | none =>
        match (arguments.filterMap seconds?).foldl
            (fun a b => a.bind fun m => b.map (m + ·)) (some 0)
          with
        | some nanos => pass nanos; return 0
        | none => throw .stuck

/-- Numbers are counted up or down. -/
def seqTool : Tool := fun arguments => do
  let (separator, arguments) := match arguments with
    | "-s" :: s :: rest => (s, rest)
    | "-w" :: rest => ("\n", rest)
    | word :: rest => if word.startsWith "-s" then (String.ofList (word.toList.drop 2), rest)
      else ("\n", arguments)
    | [] => ("\n", [])
  let numbers := arguments.filterMap fun a => (wholeNumber? true a).map Int64.toInt
  let run (first step last : Int) : Doing Nat := do
    if step = 0 then
      gripe "seq" "invalid Zero increment value: '0'"
      return 1
    else
      let count := if (0 < step && last < first) || (step < 0 && first < last) then 0
        else ((last - first) / step).toNat + 1
      let texts := (List.range (min count 100000)).map fun (i : Nat) =>
        toString (first + step * (i : Int))
      let _ ← emit 1 (String.intercalate separator texts ++ if texts.isEmpty then "" else "\n")
      return 0
  match arguments.find? fun a => (wholeNumber? true a).isNone with
  | some wrong =>
    gripe "seq" ("invalid floating point argument: '" ++ wrong ++
      "'\nTry 'seq --help' for more information.")
    return 1
  | none =>
    match numbers with
    | [last] => run 1 1 last
    | [first, last] => run first 1 last
    | [first, step, last] => run first step last
    | _ =>
      gripe "seq" "missing operand"
      return 1

/-- Whether a value counts as none. -/
def isNullValue (value : String) : Bool := value.isEmpty || (wholeNumber? true value).any (· == 0)

/-- How tightly the operators of a computation in words bind. -/
def wordLevels : List (String × Nat) :=
  [("|", 0), ("&", 1), ("<", 2), ("<=", 2), ("=", 2), ("==", 2), ("!=", 2), (">=", 2), (">", 2),
   ("+", 3), ("-", 3), ("*", 4), ("/", 4), ("%", 4), (":", 5)]

/-- What an operator makes of two words. -/
def computeWord (a o b : String) : Except String String :=
  let compared (holds : Ordering → Bool) : Except String String :=
    let order := match wholeNumber? true a, wholeNumber? true b with
      | some m, some n => Ord.compare m.toInt n.toInt
      | _, _ => Ord.compare a b
    .ok (if holds order then "1" else "0")
  let computed (apply : Int → Int → Except String Int) : Except String String :=
    match wholeNumber? true a, wholeNumber? true b with
    | some m, some n => (apply m.toInt n.toInt).map toString
    | _, _ => .error "non-integer argument"
  match o with
  | "|" => .ok (if !isNullValue a then a else if isNullValue b then "0" else b)
  | "&" => .ok (if isNullValue a || isNullValue b then "0" else a)
  | "<" => compared (· == .lt)
  | "<=" => compared (· != .gt)
  | "=" => compared (· == .eq)
  | "==" => compared (· == .eq)
  | "!=" => compared (· != .eq)
  | ">=" => compared (· != .lt)
  | ">" => compared (· == .gt)
  | "+" => computed fun m n => .ok (m + n)
  | "-" => computed fun m n => .ok (m - n)
  | "*" => computed fun m n => .ok (m * n)
  | "/" => computed fun m n => if n = 0 then .error "division by zero" else .ok (m.tdiv n)
  | "%" => computed fun m n => if n = 0 then .error "division by zero" else .ok (m.tmod n)
  | _ =>
    let text := Pattern.octets a.toList
    let rows := (Search.read false b.toList).map fun row =>
      { row with atStart := true, atEnd := true }
    let found := (List.range (text.length + 1)).reverse.find? fun n =>
      rows.any (·.isIn (text.take n))
    .ok (toString (found.getD 0))

mutual

/-- What is made of a value by the operators behind it that bind at least so tightly. -/
def computeWords : (fuel : Nat) → (level : Nat) → String → List String →
    Except String (String × List String)
  | 0, _, _, _ => .error "syntax error"
  | fuel + 1, level, a, words =>
    match words with
    | o :: rest =>
      match wordLevels.find? (·.1 == o) with
      | some (_, binding) =>
        if binding < level then .ok (a, words)
        else if rest.isEmpty then .error ("syntax error: missing argument after '" ++ o ++ "'")
        else do
          let (b, rest) ← computeOne fuel rest
          let (b, rest) ← computeWords fuel (binding + 1) b rest
          computeWords fuel level (← computeWord a o b) rest
      | none => .ok (a, words)
    | [] => .ok (a, [])

/-- A single value, and the words after it. -/
def computeOne : (fuel : Nat) → List String → Except String (String × List String)
  | 0, _ => .error "syntax error"
  | _, [] => .error "syntax error: missing argument"
  | fuel + 1, word :: rest =>
    match word, rest with
    | "(", rest => do
      let (a, rest) ← computeOne fuel rest
      let (a, rest) ← computeWords fuel 0 a rest
      match rest with
      | ")" :: rest => return (a, rest)
      | _ => .error "syntax error: expecting ')'"
    | "+", next :: rest => .ok (next, rest)
    | "length", text :: rest => .ok (toString text.utf8ByteSize, rest)
    | "substr", text :: start :: count :: rest =>
      match Text.decimal? start.toList, Text.decimal? count.toList with
      | some start, some count =>
        .ok (if start = 0 then "" else String.ofList ((text.toList.drop (start - 1)).take count),
          rest)
      | _, _ => .ok ("", rest)
    | "index", text :: set :: rest =>
      .ok (toString (((text.toList.findIdx? set.toList.contains).map (· + 1)).getD 0), rest)
    | _, _ => .ok (word, rest)

end

/-- Words are computed with. -/
def exprTool : Tool := fun arguments => do
  let outcome : Except String String := do
    let fuel := 8 * arguments.length + 8
    let (a, rest) ← computeOne fuel arguments
    let (a, rest) ← computeWords fuel 0 a rest
    match rest with
    | [] => return a
    | word :: _ => .error ("syntax error: unexpected argument '" ++ word ++ "'")
  match outcome with
  | .ok value =>
    let _ ← emit 1 (value ++ "\n")
    return if isNullValue value then 1 else 0
  | .error message =>
    gripe "expr" (if arguments.isEmpty then
      "missing operand\nTry 'expr --help' for more information." else message)
    return 2

end ControlPlane.Shell
