import ControlPlane.Shell.Arithmetic
import ControlPlane.Shell.State

/-!
# Programs that a shell finds

A program reads its input, writes its output and answers with a status.

## Main definitions

- `Tool`: a program.
- `options`: the options among its arguments.
- `readPath`, `readPaths`: what it reads.
-/

namespace ControlPlane.Shell

/-- A program, for its arguments; the answer is its status. -/
abbrev Tool := List String → Doing Nat

/-- A program complains. -/
def gripe (name message : String) : Doing Unit := do
  let _ ← emit 2 (name ++ ": " ++ message ++ "\n")

/-- A program writes lines. -/
def emitLines (lines : List (List Char)) : Doing Unit := do
  let _ ← emit 1 (String.join (lines.map fun l => String.ofList l ++ "\n"))

/-- The lines of a text. -/
def linesOf (text : List Char) : List (List Char) :=
  let parts := Text.split '\n' text
  if parts.getLast? == some [] then parts.dropLast else parts

/-- The words of a text, by blanks. -/
def wordsOf (text : List Char) : List (List Char) :=
  ((Text.split ' ' (text.map fun c => if isSpace c then ' ' else c))).filter (!·.isEmpty)

/-- The number of the options at the front of some arguments, and the arguments after them. Options
are single letters; those in `valued` take the rest of their word or else the next one. -/
def options (valued : List Char) : List String → List (Char × String) × List String
  | [] => ([], [])
  | word :: rest =>
    match word.toList with
    | ['-', '-'] => ([], rest)
    | '-' :: c :: cs =>
      let letters := (c :: cs).takeWhile fun l => !valued.contains l
      let plain := letters.map fun l => (l, "")
      match (c :: cs).drop letters.length with
      | [] =>
        let (more, operands) := options valued rest
        (plain ++ more, operands)
      | [l] =>
        match rest with
        | value :: rest =>
          let (more, operands) := options valued rest
          (plain ++ (l, value) :: more, operands)
        | [] => (plain ++ [(l, "")], [])
      | l :: value =>
        let (more, operands) := options valued rest
        (plain ++ (l, String.ofList value) :: more, operands)
    | _ => ([], word :: rest)

/-- The value of an option, if it is there. -/
def option? (found : List (Char × String)) (letter : Char) : Option String :=
  (found.find? (·.1 == letter)).map (·.2)

/-- Whether an option is there. -/
def hasOption (found : List (Char × String)) (letter : Char) : Bool := (option? found letter).isSome

/-- What a program says of a path that it cannot read. -/
def readingComplaint (name path : String) (e : SystemError) : String :=
  if name == "head" || name == "tail" then
    (if e = .isDirectory then "error reading '" ++ path ++ "'"
      else "cannot open '" ++ path ++ "' for reading") ++ ": " ++ e.reason
  else if name == "uniq" && e = .isDirectory then "error reading '" ++ path ++ "': " ++ e.reason
  else path ++ ": " ++ e.reason

/-- What stands at a path is read by a program, or it complains. -/
def readPath (name path : String) : Doing (Option (List Char)) := do
  if path == "-" then
    let text ← readAll 0
    if text.isNone then gripe name "-: Is a directory"
    return text
  else if path == "/dev/null" then return some []
  else
    match standardDescriptor? path with
    | some n => return some ((← readAll n).getD [])
    | none =>
      match (← get).files.read path with
      | .ok content => return some ((Text.ofUtf8? content).getD "").toList
      | .error e =>
        gripe name (readingComplaint name path e)
        return none

/-- What stands at several paths, or else what the input holds; `false` if some could not be
read. -/
def readPaths (name : String) : List String → Doing (List Char × Bool)
  | [] => do
    let text ← readPath name "-"
    return (text.getD [], text.isSome)
  | paths => do
    let texts ← paths.mapM (readPath name)
    return (texts.flatMap (·.getD []), texts.all (·.isSome))

/-- Lines are made of what several paths hold. -/
def filter (name : String) (work : List (List Char) → List (List Char)) : Tool := fun paths => do
  let (text, complete) ← readPaths name paths
  emitLines (work (linesOf text))
  return if complete then 0 else 1

end ControlPlane.Shell
