import ControlPlane.Shell.Command
import ControlPlane.Text.Numeral

/-!
# Arithmetic of a shell

Expressions over whole numbers of 64 bits, whose names are the variables of the shell.

## Main definitions

- `Expression`: expressions.
- `Expression.ofText`: the expression that a text says.
- `Expression.eval`: the value of an expression, and the variables that it has set.
- `wholeNumber?`: the number that a text is.
-/

namespace ControlPlane.Shell

/-- The operators between two values, both of which count. -/
inductive Operator
  | add
  | sub
  | mul
  | div
  | rem
  | shiftLeft
  | shiftRight
  | less
  | lessEqual
  | greater
  | greaterEqual
  | equal
  | unequal
  | bitAnd
  | bitXor
  | bitOr
deriving DecidableEq

/-- The operators in front of a value. -/
inductive Sign
  | plus
  | minus
  | not
  | complement
deriving DecidableEq

/-- Expressions. -/
inductive Expression
  | number (n : Int64)
  | variableOf (name : String)
  | signed (sign : Sign) (e : Expression)
  | binary (o : Operator) (a b : Expression)
  | both (a b : Expression)
  | either (a b : Expression)
  | choice (condition yes no : Expression)
  /-- A variable is set, perhaps to what an operator makes of its value. -/
  | assign (name : String) (o : Option Operator) (e : Expression)
  /-- What follows the expression makes no sense. This is only found out once the value of the
  expression is known. -/
  | broken (e : Expression) (reason : String)

namespace Expression

/-- The parts of the text of an expression. -/
inductive Token
  | number (n : Int64)
  | name (s : String)
  | symbol (s : String)
deriving DecidableEq

/-- The number that is nearest to a natural number. -/
def clamp (n : Nat) : Int64 := if n < 9223372036854775808 then Int64.ofNat n else Int64.maxValue

/-- The value of a digit in the bases up to sixteen. -/
def digit? (base : Nat) (c : Char) : Option Nat :=
  let value :=
    if c.isDigit then some (c.toNat - 48)
    else if 'a' ≤ c && c ≤ 'f' then some (c.toNat - 87)
    else if 'A' ≤ c && c ≤ 'F' then some (c.toNat - 55)
    else none
  value.filter (· < base)

/-- The natural number at the front of a text in a base, and what follows it. -/
def digits (base : Nat) (n : Nat) : List Char → Nat × List Char
  | [] => (n, [])
  | c :: rest =>
    match digit? base c with
    | some d => digits base (base * n + d) rest
    | none => (n, c :: rest)

/-- The natural number at the front of a text that begins with a digit, in the base that its first
characters say. -/
def numeral (text : List Char) : Nat × List Char :=
  match text with
  | '0' :: x :: d :: rest =>
    if (x == 'x' || x == 'X') && (digit? 16 d).isSome then digits 16 0 (d :: rest)
    else if (x == 'b' || x == 'B') && (digit? 2 d).isSome then digits 2 0 (d :: rest)
    else digits 8 0 text
  | '0' :: _ => digits 8 0 text
  | _ => digits 10 0 text

/-- The symbols of expressions; none of them stands behind one that it begins with. -/
def symbols : List String :=
  ["<<=", ">>=", "&&", "||", "<<", ">>", "<=", ">=", "==", "!=", "+=", "-=", "*=", "/=", "%=", "&=",
   "|=", "^=", "+", "-", "*", "/", "%", "<", ">", "=", "!", "~", "&", "|", "^", "?", ":", "(", ")"]

/-- What follows `part` at the front of a text. -/
def after? : (part text : List Char) → Option (List Char)
  | [], text => some text
  | c :: part, d :: text => if c = d then after? part text else none
  | _ :: _, [] => none

/-- At most `fuel` parts of a text. A character that begins none is a symbol that means nothing. -/
def tokens : (fuel : Nat) → List Char → List Token
  | 0, _ => []
  | _, [] => []
  | fuel + 1, c :: rest =>
    if c == ' ' || c == '\t' || c == '\n' then tokens fuel rest
    else if c.isDigit then
      let (n, after) := numeral (c :: rest)
      .number (clamp n) :: tokens fuel after
    else if isNameStart c then
      .name (String.ofList (c :: rest.takeWhile isNameChar)) ::
        tokens fuel (rest.dropWhile isNameChar)
    else
      match symbols.findSome? fun s => (after? s.toList (c :: rest)).map (s, ·) with
      | some (s, after) => .symbol s :: tokens fuel after
      | none => .symbol (String.singleton c) :: tokens fuel rest

/-- How tightly the operators bind, and which they are. -/
def binaries : List (String × Nat × Operator) :=
  [("|", 1, .bitOr), ("^", 2, .bitXor), ("&", 3, .bitAnd), ("==", 4, .equal), ("!=", 4, .unequal),
   ("<", 5, .less), ("<=", 5, .lessEqual), (">", 5, .greater), (">=", 5, .greaterEqual),
   ("<<", 6, .shiftLeft), (">>", 6, .shiftRight), ("+", 7, .add), ("-", 7, .sub), ("*", 8, .mul),
   ("/", 8, .div), ("%", 8, .rem)]

/-- The symbols that set a variable, and the operator that each of them has. -/
def assignments : List (String × Option Operator) :=
  [("=", none), ("+=", some .add), ("-=", some .sub), ("*=", some .mul), ("/=", some .div),
   ("%=", some .rem), ("<<=", some .shiftLeft), (">>=", some .shiftRight), ("&=", some .bitAnd),
   ("^=", some .bitXor), ("|=", some .bitOr)]

/-- The symbols in front of a value. -/
def signs : List (String × Sign) :=
  [("+", .plus), ("-", .minus), ("!", .not), ("~", .complement)]

/-- What stands for a value that is missing. -/
def missing : Expression := .broken (.number 0) "expecting primary"

/-- An expression that is followed by a symbol, and what follows that. Without the symbol nothing
more is read. -/
def expect (symbol : String) (e : Expression) (tokens : List Token) : Expression × List Token :=
  match tokens with
  | .symbol s :: rest =>
    if s == symbol then (e, rest) else (.broken e ("expecting '" ++ symbol ++ "'"), [])
  | _ => (.broken e ("expecting '" ++ symbol ++ "'"), [])

mutual

/-- An assignment or a choice, and what follows it. -/
def readWhole : (fuel : Nat) → List Token → Expression × List Token
  | 0, _ => (missing, [])
  | fuel + 1, tokens =>
    match tokens with
    | .name name :: .symbol s :: rest =>
      match assignments.find? (·.1 == s) with
      | some (_, o) =>
        let (e, rest) := readWhole fuel rest
        (.assign name o e, rest)
      | none => readChoice fuel tokens
    | _ => readChoice fuel tokens

/-- A value that may be chosen by a condition, and what follows it. The second of the two values of
a choice is no assignment. -/
def readChoice : (fuel : Nat) → List Token → Expression × List Token
  | 0, _ => (missing, [])
  | fuel + 1, tokens =>
    let (condition, rest) := readEither fuel tokens
    match rest with
    | .symbol "?" :: rest =>
      let (yes, rest) := readWhole fuel rest
      match rest with
      | .symbol ":" :: rest =>
        let (no, rest) := readChoice fuel rest
        (.choice condition yes no, rest)
      | _ => (.choice condition yes (.broken (.number 0) "expecting ':'"), [])
    | _ => (condition, rest)

/-- Values of which one has to hold, and what follows them. -/
def readEither : (fuel : Nat) → List Token → Expression × List Token
  | 0, _ => (missing, [])
  | fuel + 1, tokens =>
    let (a, rest) := readBoth fuel tokens
    match rest with
    | .symbol "||" :: rest =>
      let (b, rest) := readEither fuel rest
      (.either a b, rest)
    | _ => (a, rest)

/-- Values all of which have to hold, and what follows them. -/
def readBoth : (fuel : Nat) → List Token → Expression × List Token
  | 0, _ => (missing, [])
  | fuel + 1, tokens =>
    let (first, rest) := readValue fuel tokens
    let (a, rest) := readBinary fuel 1 first rest
    match rest with
    | .symbol "&&" :: rest =>
      let (b, rest) := readBoth fuel rest
      (.both a b, rest)
    | _ => (a, rest)

/-- What is made of a value by the operators behind it that bind at least so tightly. -/
def readBinary : (fuel : Nat) → (level : Nat) → Expression → List Token → Expression × List Token
  | 0, _, _, _ => (missing, [])
  | fuel + 1, level, a, tokens =>
    match tokens with
    | .symbol s :: rest =>
      match binaries.find? (·.1 == s) with
      | some (_, binding, o) =>
        if binding < level then (a, tokens)
        else
          let (b, rest) := readValue fuel rest
          let (b, rest) := readBinary fuel (binding + 1) b rest
          readBinary fuel level (.binary o a b) rest
      | none => (a, tokens)
    | _ => (a, tokens)

/-- A single value, and what follows it. -/
def readValue : (fuel : Nat) → List Token → Expression × List Token
  | 0, _ => (missing, [])
  | fuel + 1, tokens =>
    match tokens with
    | .number n :: rest => (.number n, rest)
    | .name name :: rest => (.variableOf name, rest)
    | .symbol "(" :: rest =>
      let (e, rest) := readWhole fuel rest
      expect ")" e rest
    | .symbol s :: rest =>
      match signs.find? (·.1 == s) with
      | some (_, sign) =>
        let (e, rest) := readValue fuel rest
        (.signed sign e, rest)
      | none => (missing, [])
    | [] => (missing, [])

end

/-- The expression that a text says. -/
def ofText (text : List Char) : Expression :=
  let tokens := tokens text.length text
  let (e, rest) := readWhole (16 * tokens.length + 16) tokens
  if rest.isEmpty then e else .broken e "expecting EOF"

/-- The first part of an expression that makes no sense, if there is one. -/
def fault? : Expression → Option String
  | .number _ => none
  | .variableOf _ => none
  | .signed _ e => e.fault?
  | .binary _ a b => a.fault?.or b.fault?
  | .both a b => a.fault?.or b.fault?
  | .either a b => a.fault?.or b.fault?
  | .choice c a b => (c.fault?.or a.fault?).or b.fault?
  | .assign _ _ e => e.fault?
  | .broken e reason => e.fault?.or (some reason)

end Expression

/-- The characters that count as blanks in front of numbers. -/
def isSpace (c : Char) : Bool := c == ' ' || (9 ≤ c.toNat && c.toNat ≤ 13)

/-- The number of a text that is nothing but a number, with blanks around it; nothing if it takes
more than 64 bits. In base ten all digits are decimal; otherwise the first characters say the
base. -/
def wholeNumber? (decimal : Bool) (text : String) : Option Int64 :=
  let text := text.toList.dropWhile isSpace
  let (negative, text) := match text with
    | '-' :: rest => (true, rest)
    | '+' :: rest => (false, rest)
    | _ => (false, text)
  match text with
  | [] => none
  | c :: _ =>
    if !c.isDigit then none
    else
      let (n, rest) := if decimal then Expression.digits 10 0 text else Expression.numeral text
      if !(rest.all isSpace) || (if negative then 1 else 0) + 9223372036854775807 < n then none
      else some (if negative then -(Int64.ofNat n) else Int64.ofNat n)

/-- Why an expression has no value. -/
inductive ArithmeticError
  | divisionByZero
  /-- The value of a variable is no number. -/
  | illegalNumber (text : String)
  /-- The expression makes no sense. -/
  | senseless (reason : String)
deriving DecidableEq

/-- The number of a truth value. -/
def ofTruth (b : Bool) : Int64 := if b then 1 else 0

/-- What an operator makes of two values. -/
def Operator.apply (o : Operator) (a b : Int64) : Except ArithmeticError Int64 :=
  match o with
  | .add => .ok (a + b)
  | .sub => .ok (a - b)
  | .mul => .ok (a * b)
  | .div => if b = 0 then .error .divisionByZero else .ok (a / b)
  | .rem => if b = 0 then .error .divisionByZero else .ok (a % b)
  | .shiftLeft => .ok (a <<< b)
  | .shiftRight => .ok (a >>> b)
  | .less => .ok (ofTruth (a < b))
  | .lessEqual => .ok (ofTruth (a ≤ b))
  | .greater => .ok (ofTruth (b < a))
  | .greaterEqual => .ok (ofTruth (b ≤ a))
  | .equal => .ok (ofTruth (a == b))
  | .unequal => .ok (ofTruth (a != b))
  | .bitAnd => .ok (a &&& b)
  | .bitXor => .ok (a ^^^ b)
  | .bitOr => .ok (a ||| b)

/-- What a sign makes of a value. -/
def Sign.apply (s : Sign) (a : Int64) : Int64 :=
  match s with
  | .plus => a
  | .minus => -a
  | .not => ofTruth (a == 0)
  | .complement => ~~~a

namespace Expression

/-- The value of a variable among those that have been set and those that were there before. One
without a value counts as zero. -/
def valueOf (before : String → Option String) (set : List (String × Int64)) (name : String) :
    Except ArithmeticError Int64 :=
  match set.find? (·.1 == name) with
  | some (_, n) => .ok n
  | none =>
    match before name with
    | none => .ok 0
    | some text =>
      if text.isEmpty then .ok 0
      else
        match wholeNumber? false text with
        | some n => .ok n
        | none => .error (.illegalNumber text)

/-- A part of an expression whose value does not count makes sense. -/
def check (e : Expression) : Except ArithmeticError Unit :=
  match e.fault? with
  | some reason => .error (.senseless reason)
  | none => .ok ()

/-- The value of an expression and the variables that have been set, the latest first. -/
def eval (before : String → Option String) :
    Expression → List (String × Int64) → Except ArithmeticError (Int64 × List (String × Int64))
  | .number n, set => .ok (n, set)
  | .variableOf name, set => (valueOf before set name).map (·, set)
  | .signed s e, set => do
    let (a, set) ← e.eval before set
    return (s.apply a, set)
  | .binary o a b, set => do
    let (a, set) ← a.eval before set
    let (b, set) ← b.eval before set
    return (← o.apply a b, set)
  | .both a b, set => do
    let (a, set) ← a.eval before set
    if a == 0 then
      b.check
      return (0, set)
    else
      let (b, set) ← b.eval before set
      return (ofTruth (b != 0), set)
  | .either a b, set => do
    let (a, set) ← a.eval before set
    if a != 0 then
      b.check
      return (1, set)
    else
      let (b, set) ← b.eval before set
      return (ofTruth (b != 0), set)
  | .choice condition yes no, set => do
    let (c, set) ← condition.eval before set
    if c != 0 then
      let answer ← yes.eval before set
      no.check
      return answer
    else
      yes.check
      no.eval before set
  | .assign name o e, set => do
    let (b, set) ← e.eval before set
    let n ← match o with
      | none => pure b
      | some o => do o.apply (← valueOf before set name) b
    return (n, (name, n) :: set)
  | .broken e reason, set => do
    let _ ← e.eval before set
    .error (.senseless reason)

end Expression

end ControlPlane.Shell
