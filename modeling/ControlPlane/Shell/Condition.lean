import ControlPlane.Shell.Arithmetic

/-!
# Conditions of a shell

A condition is a list of words: operators and operands, of which some can only be told apart by the
words around them.

## Main definitions

- `Condition.Facts`: what can be asked about files and descriptors.
- `Condition.evaluate`: whether a condition holds.
-/

namespace ControlPlane.Shell.Condition

/-- What can be asked about files and descriptors. -/
structure Facts where
  /-- Whether what a letter says holds for the file at a path. -/
  file : (letter : Char) → (path : String) → Bool

/-- Why a condition makes no sense. -/
inductive Fault
  | illegalNumber (text : String)
  | unexpectedOperator (text : String)
  | argumentExpected (operator : String)
  | closingExpected
deriving DecidableEq

/-- The message about a fault. -/
def Fault.message : Fault → String
  | .illegalNumber text => "Illegal number: " ++ text
  | .unexpectedOperator text =>
    (if text.isEmpty then "" else text ++ ": ") ++ "unexpected operator"
  | .argumentExpected operator => operator ++ ": argument expected"
  | .closingExpected => "closing paren expected"

/-- The letters that ask something about a file. -/
def fileLetters : List Char :=
  ['b', 'c', 'd', 'e', 'f', 'g', 'h', 'k', 'p', 'r', 's', 'u', 'w', 'x', 'G', 'L', 'O', 'S']

/-- The letter of an operator with one operand. -/
def unary? (word : String) : Option Char :=
  match word.toList with
  | ['-', c] => if c == 'n' || c == 'z' || c == 't' || fileLetters.contains c then some c else none
  | _ => none

/-- The operators that compare numbers. -/
def comparisons : List (String × (Int64 → Int64 → Bool)) :=
  [("-eq", (· == ·)), ("-ne", (· != ·)), ("-lt", fun a b => a < b), ("-le", fun a b => a ≤ b),
   ("-gt", fun a b => b < a), ("-ge", fun a b => b ≤ a)]

/-- The operators that compare texts. -/
def orders : List (String × (String → String → Bool)) :=
  [("=", (· == ·)), ("!=", (· != ·)), ("<", fun a b => a < b), (">", fun a b => b < a)]

/-- The operators that compare files. -/
def fileOrders : List String := ["-nt", "-ot", "-ef"]

/-- Whether a word is an operator with two operands. -/
def isBinary (word : String) : Bool :=
  comparisons.any (·.1 == word) || orders.any (·.1 == word) || fileOrders.contains word

/-- What a word is where a condition may begin. -/
inductive Role
  | operand
  | not
  | opening
  | unary (letter : Char)
  | binary
  | both
  | either
  | closing
  | nothing
deriving DecidableEq

/-- What the first of several words is. An operator with one operand counts as an operand itself if
none follows, or if an operator with two operands follows with its second one. -/
def role : List String → Role
  | [] => .nothing
  | word :: rest =>
    match unary? word with
    | some letter =>
      match rest with
      | [] => .operand
      | [_] => .unary letter
      | next :: _ => if isBinary next then .operand else .unary letter
    | none =>
      match word with
      | "!" => .not
      | "(" => if rest.isEmpty then .operand else .opening
      | ")" => .closing
      | "-a" => .both
      | "-o" => .either
      | _ => if isBinary word then .binary else .operand

/-- The number that a word is. -/
def number (word : String) : Except Fault Int64 :=
  match wholeNumber? true word with
  | some n => .ok n
  | none => .error (.illegalNumber word)

/-- Whether two operands are as an operator says. All files are equally old. -/
def compare (facts : Facts) (a o b : String) : Except Fault Bool :=
  match orders.find? (·.1 == o) with
  | some (_, holds) => .ok (holds a b)
  | none =>
    match comparisons.find? (·.1 == o) with
    | some (_, holds) => do return holds (← number a) (← number b)
    | none =>
      .ok (o == "-ef" && a == b && facts.file 'e' a)

/-- Whether what a letter says holds for an operand. -/
def ask (facts : Facts) (letter : Char) (operand : String) : Except Fault Bool :=
  match letter with
  | 'n' => .ok !operand.isEmpty
  | 'z' => .ok operand.isEmpty
  | 't' => do
    let _ ← number operand
    return false
  | _ => .ok (facts.file letter operand)

mutual

/-- Conditions of which one has to hold. The answer comes with the words from the last one that was
used on. -/
def readEither (facts : Facts) : (fuel : Nat) → List String → Except Fault (Bool × List String)
  | 0, words => .ok (false, words)
  | fuel + 1, words => do
    let (a, rest) ← readBoth facts fuel words
    match rest.drop 1 with
    | "-o" :: more =>
      let (b, rest) ← readEither facts fuel more
      return (a || b, rest)
    | _ => return (a, rest)

/-- Conditions that all have to hold. -/
def readBoth (facts : Facts) : (fuel : Nat) → List String → Except Fault (Bool × List String)
  | 0, words => .ok (false, words)
  | fuel + 1, words => do
    let (a, rest) ← readNegated facts fuel words
    match rest.drop 1 with
    | "-a" :: more =>
      let (b, rest) ← readBoth facts fuel more
      return (a && b, rest)
    | _ => return (a, rest)

/-- A condition that is perhaps turned round. -/
def readNegated (facts : Facts) : (fuel : Nat) → List String → Except Fault (Bool × List String)
  | 0, words => .ok (false, words)
  | fuel + 1, words =>
    if role words == .not then
      match words with
      | [_] => .ok (true, words)
      | _ => do
        let (a, rest) ← readNegated facts fuel (words.drop 1)
        return (!a, rest)
    else readPrimary facts fuel words

/-- A single condition. -/
def readPrimary (facts : Facts) : (fuel : Nat) → List String → Except Fault (Bool × List String)
  | 0, words => .ok (false, words)
  | fuel + 1, words =>
    match role words with
    | .nothing => .ok (false, words)
    | .opening =>
      if role (words.drop 1) == .closing then .ok (false, words.drop 1)
      else do
        let (a, rest) ← readEither facts fuel (words.drop 1)
        if role (rest.drop 1) == .closing then return (a, rest.drop 1)
        else .error .closingExpected
    | .unary letter =>
      match words with
      | _ :: operand :: _ => do return (← ask facts letter operand, words.drop 1)
      | _ => .error (.argumentExpected (words.headD ""))
    | _ =>
      match words with
      | a :: o :: rest =>
        if isBinary o then
          match rest with
          | b :: _ => do return (← compare facts a o b, rest)
          | [] => .error (.argumentExpected o)
        else .ok (!a.isEmpty, words)
      | [a] => .ok (!a.isEmpty, words)
      | [] => .ok (false, [])

end

/-- Whether a condition holds that is looked at word for word. -/
def evaluateAll (facts : Facts) (words : List String) : Except Fault Bool := do
  let (a, rest) ← readEither facts (4 * words.length + 8) words
  match rest with
  | used :: _ :: _ => .error (.unexpectedOperator used)
  | _ => return a

/-- Whether a condition of three words holds. The one in the middle may say what the others are. -/
def evaluateThree (facts : Facts) (a o b : String) : Except Fault Bool :=
  if isBinary o then compare facts a o b
  else if a == "(" && b == ")" then evaluateAll facts [o]
  else if a == "!" then (evaluateAll facts [o, b]).map (!·)
  else evaluateAll facts [a, o, b]

/-- Whether a condition holds. In those with three or four words it is their number that says what
they are; there a second sign in front says the same as the first one alone. -/
def evaluate (facts : Facts) (words : List String) : Except Fault Bool :=
  match words with
  | [] => .ok false
  | [a, o, b] => evaluateThree facts a o b
  | [first, a, o, b] =>
    if first == "(" && b == ")" then evaluateAll facts [a, o]
    else if first == "!" then
      if a == "!" && !isBinary o then evaluateThree facts a o b
      else (evaluateThree facts a o b).map (!·)
    else evaluateAll facts words
  | _ => evaluateAll facts words

end ControlPlane.Shell.Condition
