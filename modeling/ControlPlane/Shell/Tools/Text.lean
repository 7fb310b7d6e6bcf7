import ControlPlane.Shell.Format
import ControlPlane.Shell.Search
import ControlPlane.Shell.Tools.Basic

/-!
# Programs for texts

## Main definitions

- `echoTool`, `printfTool`: programs that write their arguments.
- `headTool`, `tailTool`, `cutTool`, `grepTool`: programs that write parts of what they read.
- `trTool`, `sortTool`, `uniqTool`: programs that change what they read.
- `wcTool`: a program that counts.
-/

namespace ControlPlane.Shell

/-- The arguments are written on a line. -/
def echoTool : Tool := fun arguments => do
  let isOption (word : String) : Bool :=
    match word.toList with
    | '-' :: c :: cs => (c :: cs).all ['n', 'e', 'E'].contains
    | _ => false
  let letters := (arguments.takeWhile isOption).flatMap fun word => word.toList.drop 1
  let text := String.intercalate " " (arguments.dropWhile isOption)
  let escapes := letters.reverse.find? (· != 'n') == some 'e'
  let (cs, ends) := if escapes then Format.unescape true text.toList else (text.toList, false)
  let _ ← emit 1 (String.ofList cs ++ if ends || letters.contains 'n' then "" else "\n")
  return 0

/-- A format is filled with arguments. -/
def printfTool (report : String → Doing Unit) : Tool := fun arguments => do
  match (if arguments.head? == some "--" then arguments.drop 1 else arguments) with
  | [] =>
    report "missing operand\nTry 'printf --help' for more information."
    return 1
  | format :: rest =>
    match format.toList with
    | '-' :: c :: _ =>
      if arguments.head? != some "--" then
        report ("Illegal option -" ++ String.singleton c)
        return 2
    | _ => pure ()
    let f := Format.ofArguments format rest
    let _ ← emit 1 (String.ofList f.text)
    f.wrong.forM fun (text, misfit) => report (text ++ ": " ++ misfit.message)
    match f.senseless with
    | some reason =>
      report reason
      return 2
    | none => return if f.wrong.isEmpty then 0 else 1

/-- How many lines or characters an end of a text has. -/
structure Extent where
  inChars : Bool
  count : Nat
  /-- The end is all but so many, or begins with the one of that number. -/
  reversed : Bool

/-- The extent that the arguments of a program say, and the paths. -/
def extent (sign : Char) (arguments : List String) : Extent × List String :=
  let arguments := match arguments with
    | word :: rest =>
      match word.toList with
      | '-' :: d :: digits =>
        if d.isDigit then "-n" :: String.ofList (d :: digits) :: rest else arguments
      | _ => arguments
    | [] => []
  let (found, paths) := options ['n', 'c'] arguments
  let inChars := hasOption found 'c'
  let text := ((option? found 'c').or (option? found 'n')).getD "10"
  let digits := text.toList.filter Char.isDigit
  ({ inChars, count := Nat.ofDigitChars 10 digits 0, reversed := text.toList.head? == some sign },
    paths)

/-- The first lines or characters. -/
def headTool : Tool := fun arguments => do
  let (e, paths) := extent '-' arguments
  let (text, complete) ← readPaths "head" paths
  let cut {α : Type} (xs : List α) : List α :=
    if e.reversed then xs.take (xs.length - e.count) else xs.take e.count
  if e.inChars then
    let _ ← emit 1 (String.ofList (cut text))
  else emitLines (cut (linesOf text))
  return if complete then 0 else 1

/-- The last lines or characters. -/
def tailTool : Tool := fun arguments => do
  let (e, paths) := extent '+' arguments
  let (text, complete) ← readPaths "tail" paths
  let cut {α : Type} (xs : List α) : List α :=
    xs.drop (if e.reversed then e.count - 1 else xs.length - e.count)
  if e.inChars then
    let _ ← emit 1 (String.ofList (cut text))
  else emitLines (cut (linesOf text))
  return if complete then 0 else 1

/-- Lines, words and octets are counted. -/
def wcTool : Tool := fun arguments => do
  let (found, paths) := options [] arguments
  let count (text : List Char) : List Nat :=
    let all := [('l', (text.filter (· == '\n')).length), ('w', (wordsOf text).length),
      ('m', text.length), ('c', (String.ofList text).utf8ByteSize)]
    if found.isEmpty then [0, 1, 3].filterMap fun i => (all[i]?).map (·.2)
    else (all.filter fun (l, _) => hasOption found l).map (·.2)
  let write (width : Nat) (text : List Char) (path : String) : Doing Unit := do
    let numbers := (count text).map fun n =>
      let t := toString n
      String.ofList (List.replicate (width - t.length) ' ') ++ t
    let _ ← emit 1 (String.intercalate " " numbers ++
      (if path.isEmpty then "" else " " ++ path) ++ "\n")
  match paths with
  | [] =>
    write (if (count []).length = 1 then 1 else 7) ((← readAll 0).getD []) ""
    return 0
  | _ =>
    let found ← paths.mapM fun path => do
      let text ← readPath "wc" path
      match text with
      | some text => write 1 text path
      | none => pure ()
      return text
    if 1 < paths.length then write 1 (found.flatMap (·.getD [])) "total"
    return if found.all (·.isSome) then 0 else 1

/-- The characters of a set that is written with ranges and classes. -/
def setOf : List Char → List Char
  | [] => []
  | '\\' :: c :: rest =>
    ((Format.escapes.find? (·.1 == c)).elim c fun (_, n) => Char.ofNat n) :: setOf rest
  | a :: '-' :: b :: rest =>
    if a ≤ b then
      (List.range (b.toNat - a.toNat + 1)).map (fun i => Char.ofNat (a.toNat + i)) ++ setOf rest
    else setOf rest
  | c :: rest => c :: setOf rest

/-- The characters of a set, which may be a class with a name. -/
def charactersOf (text : String) : List Char :=
  if text.startsWith "[:" && text.endsWith ":]" then
    let name := String.ofList ((text.toList.drop 2).dropLast.dropLast)
    ((List.range 128).map Char.ofNat).filter (Pattern.isInClass name)
  else setOf text.toList

/-- A text in which no character of a set stands twice in a row. -/
def squeeze (set : List Char) : List Char → List Char
  | a :: b :: rest =>
    if a == b && set.contains a then squeeze set (b :: rest) else a :: squeeze set (b :: rest)
  | cs => cs

/-- Characters are exchanged, taken away or squeezed. -/
def trTool : Tool := fun arguments => do
  let (found, sets) := options [] arguments
  let text := (← readAll 0).getD []
  let inverted := hasOption found 'c' || hasOption found 'C'
  let first := charactersOf (sets.headD "")
  let second := charactersOf ((sets.drop 1).headD "")
  let isIn (c : Char) : Bool := first.contains c != inverted
  let text :=
    if hasOption found 'd' then text.filter fun c => !isIn c
    else if second.isEmpty then text
    else text.map fun c =>
      if isIn c then
        let last := second.getLast?.getD c
        if inverted then last
        else ((first.findIdx? (· == c)).bind (second[·]?)).getD last
      else c
  let text :=
    if hasOption found 's' then squeeze (if second.isEmpty then first else second) text else text
  let _ ← emit 1 (String.ofList text)
  if sets.isEmpty then
    gripe "tr" "missing operand"
    return 1
  else return 0

/-- Whether a list of ranges holds a number. -/
def inRanges (ranges : String) (n : Nat) : Bool :=
  (Text.split ',' ranges.toList).any fun range =>
    match Text.split '-' range with
    | [only] => Text.decimal? only == some n
    | [first, last] =>
      ((Text.decimal? first).getD 1 ≤ n) && (last.isEmpty || n ≤ (Text.decimal? last).getD 0)
    | _ => false

/-- Parts of lines are cut out. -/
def cutTool : Tool := fun arguments => do
  let (found, paths) := options ['d', 'f', 'c', 'b'] arguments
  let separator := ((option? found 'd').bind (·.toList.head?)).getD '\t'
  let pick {α : Type} (ranges : String) (xs : List α) : List α :=
    ((List.range xs.length).filter fun i => inRanges ranges (i + 1)).filterMap fun i => xs[i]?
  match (option? found 'f'), (option? found 'c').or (option? found 'b') with
  | some ranges, _ =>
    filter "cut" (fun lines => lines.filterMap fun line =>
      let parts := Text.split separator line
      if parts.length = 1 then if hasOption found 's' then none else some line
      else some (List.intercalate [separator] (pick ranges parts))) paths
  | none, some ranges => filter "cut" (·.map (pick ranges)) paths
  | none, none =>
    gripe "cut" "you must specify a list of bytes, characters, or fields"
    return 1

/-- Lines without those that repeat the one before, each with the number of times that it stands
there. -/
def runsOf : List (List Char) → List (Nat × List Char)
  | [] => []
  | line :: rest =>
    match runsOf rest with
    | (n, next) :: more =>
      if line == next then (n + 1, next) :: more else (1, line) :: (n, next) :: more
    | [] => [(1, line)]

/-- The number at the front of a line. -/
def leadingNumber (line : List Char) : Int :=
  let text := line.dropWhile (· == ' ')
  let (negative, text) := match text with
    | '-' :: rest => (true, rest)
    | _ => (false, text)
  let n : Int := Nat.ofDigitChars 10 (text.takeWhile Char.isDigit) 0
  if negative then -n else n

/-- Lines are sorted, once it is clear that all files can be read. -/
def sortTool : Tool := fun arguments => do
  let (found, paths) := options ['k', 't', 'o'] arguments
  let files := (← get).files
  for path in paths do
    match files.read path with
    | .ok _ => pure ()
    | .error e =>
      if path != "-" && !path.startsWith "/dev/" then
        gripe "sort" ((if e = .isDirectory then "read failed: " else "cannot read: ") ++ path ++
          ": " ++ e.reason)
        return 2
  let precedes (a b : List Char) : Bool :=
    if hasOption found 'n' && leadingNumber a != leadingNumber b then
      leadingNumber a < leadingNumber b
    else String.ofList a ≤ String.ofList b
  filter "sort" (fun lines =>
    let sorted := lines.mergeSort precedes
    let sorted := if hasOption found 'r' then sorted.reverse else sorted
    if hasOption found 'u' then (runsOf sorted).map (·.2) else sorted) paths

/-- Lines that repeat the one before are left out. -/
def uniqTool : Tool := fun arguments =>
  let (found, paths) := options ['f', 's', 'w'] arguments
  filter "uniq" (fun lines =>
    let runs := (runsOf lines).filter fun (n, _) =>
      (!hasOption found 'd' || 1 < n) && (!hasOption found 'u' || n = 1)
    runs.map fun (n, line) =>
      if hasOption found 'c' then
        let t := (toString n).toList
        List.replicate (7 - t.length) ' ' ++ t ++ ' ' :: line
      else line) paths

/-- Lines are searched. -/
def grepTool (extended fixed : Bool) : Tool := fun arguments => do
  let (found, operands) := options ['e', 'm', 'A', 'B', 'C', 'f'] arguments
  let (wanted, paths) := match option? found 'e' with
    | some text => (some text, operands)
    | none => (operands.head?, operands.drop 1)
  match wanted with
  | none =>
    let _ ← emit 2 ("Usage: grep [OPTION]... PATTERNS [FILE]...\n" ++
      "Try 'grep --help' for more information.\n")
    return 2
  | some wanted =>
    let fold (cs : List Char) : List Char := if hasOption found 'i' then cs.map Char.toLower else cs
    let rows := (Text.split '\n' (fold wanted.toList)).flatMap fun text =>
      if fixed || hasOption found 'F' then [Search.literal text]
      else Search.read (extended || hasOption found 'E') text
    let rows := if hasOption found 'x' then
        rows.map fun r => { r with atStart := true, atEnd := true }
      else rows
    let counts ← (if paths.isEmpty then ["-"] else paths).mapM fun path => do
      let text ← readPath "grep" path
      let lines := (linesOf (text.getD [])).zipIdx.filter fun (line, _) =>
        Search.finds rows (fold line) != hasOption found 'v'
      let mark : List Char :=
        if (1 < paths.length || hasOption found 'H') && !hasOption found 'h' then
          path.toList ++ [':'] else []
      if text.isNone || hasOption found 'q' then pure ()
      else if hasOption found 'l' then
        if !lines.isEmpty then emitLines [path.toList]
      else if hasOption found 'c' then emitLines [mark ++ (toString lines.length).toList]
      else emitLines (lines.map fun (line, i) => mark ++
        if hasOption found 'n' then (toString (i + 1)).toList ++ ':' :: line else line)
      return text.map fun _ => lines.length
    let hit := counts.any fun n => n.any (0 < ·)
    return if hit && hasOption found 'q' then 0
      else if counts.any (·.isNone) then 2 else if hit then 0 else 1

end ControlPlane.Shell
