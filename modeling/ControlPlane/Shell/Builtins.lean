import ControlPlane.Shell.Expansion
import ControlPlane.Shell.Tools

/-!
# Commands that the shell itself performs

These are the commands that change the shell, or look at it, without running other commands.

## Main definitions

- `isSpecialBuiltin`, `isBuiltin`: which commands the shell performs itself.
- `builtin?`: the command with a name.
- `pause`: waiting for a process or a signal.
-/

namespace ControlPlane.Shell

/-- The commands that the shell itself performs, and without which it does not go on. -/
def specialBuiltins : List String :=
  [".", ":", "break", "continue", "eval", "exec", "exit", "export", "local", "readonly", "return",
   "set", "shift", "times", "trap", "unset"]

/-- The other commands that the shell itself performs. -/
def regularBuiltins : List String :=
  ["[", "alias", "bg", "cd", "command", "echo", "false", "fg", "getopts", "hash", "jobs", "kill",
   "printf", "pwd", "read", "test", "true", "type", "ulimit", "umask", "unalias", "wait"]

/-- Whether the shell itself performs a command. -/
def isBuiltin (name : String) : Bool := (specialBuiltins ++ regularBuiltins).contains name

/-- The number that an argument of a command gives. -/
def countOf (text : String) : Doing Nat := do
  match (wholeNumber? true text).filter fun n => 0 ≤ n && n < 2147483648 with
  | some n => return n.toInt.toNat
  | none => abort ("Illegal number: " ++ text)

/-- The first signal that was sent to this process and that `p` holds for. -/
def State.firstSignal? (s : State) (p : Delivery → Bool) : Option Delivery :=
  ((s.sent.filter fun d => d.target == s.self && p d).mergeSort fun a b => a.time ≤ b.time).head?

/-- Waits for something that happens at an instant, or never. A signal about which something is to
be done ends the wait; the answer is its number. -/
def pause (ends : Option Nat) : Doing (Option Nat) := do
  let s ← get
  let interrupts (d : Delivery) : Bool :=
    ends.all (d.time ≤ ·) && (s.isDeadly d.signal || (s.trap? d.signal).any (!·.isEmpty))
  match s.firstSignal? interrupts, ends with
  | some d, _ =>
    set { s with clock := max s.clock d.time }
    return some d.signal
  | none, some t =>
    set { s with clock := max s.clock t }
    return none
  | none, none => throw .stuck

/-- Processes in the background are waited for, until a signal comes; the answer is the status of
the last one. If the wait is `loud`, it is said which of them a signal has ended. -/
def waitForAll (loud : Bool) (status : Nat) : List (Option Job) → Doing Nat
  | [] => return status
  | none :: rest => waitForAll loud 127 rest
  | some job :: rest => do
    match ← pause job.ends with
    | some signal => return 128 + signal
    | none =>
      if loud then announce job.exit
      waitForAll loud job.exit.code rest

/-- Processes in the background are waited for: all of them, or those that are named. -/
def waitTool : Tool := fun arguments => do
  let jobs := (← get).jobs
  if arguments.isEmpty then
    let status ← waitForAll false 0 (jobs.map some)
    return if 128 < status && (← get).arrived?.isSome then status else 0
  else
    let job? (text : String) : Option Job :=
      jobs.find? fun j => toString j.process == text || "%" ++ toString j.number == text
    match arguments.find? fun text => text.startsWith "%" && (job? text).isNone with
    | some text =>
      complain ("No such job: " ++ text)
      return 2
    | none => waitForAll true 0 (arguments.map job?)

/-- The directory changes. -/
def cdTool : Tool := fun arguments => do
  let s ← get
  let goal := match arguments.filter (fun a => a != "-P" && a != "-L" && a != "--") with
    | [] => (s.variableValue? "HOME").getD ""
    | "-" :: _ => (s.variableValue? "OLDPWD").getD ""
    | path :: _ => path
  if goal.isEmpty then return 0
  else
    let names := FileTree.names goal
    match (if s.files.isDirectory names then s.files.walk names else .error .notDirectory) with
    | .error _ =>
      complain ("can't cd to " ++ goal)
      return 2
    | .ok place =>
      let old := (s.variableValue? "PWD").getD (FileTree.path s.files.current)
      modify fun s => { s with files := { s.files with current := place } }
      setVariable "OLDPWD" old
      setVariable "PWD" (FileTree.path place)
      if arguments.head? == some "-" then emitLines [goal.toList]
      return 0

/-- A variable that a command names is changed, and gets a value if one stands there. -/
def declare (word : String) (change : Variable → Variable) : Doing Unit := do
  let name := String.ofList (word.toList.takeWhile (· != '='))
  if !isName name.toList then abort (word ++ ": bad variable name")
  else
    if word.toList.contains '=' then
      setVariable name (String.ofList (word.toList.drop (name.length + 1)))
    modify fun s => s.putVariable name (change ((s.binding? name).getD {}))

/-- Variables are declared, or listed as `list` says. -/
def declareTool (command : String) (change : Variable → Variable) (listed : Variable → Bool) :
    Tool := fun arguments => do
  match arguments.filter fun a => a != "-p" && a != "--" with
  | [] =>
    emitLines (((← get).bindings.filter fun (_, v) => listed v).map fun (name, v) =>
      (command ++ " " ++ name ++ (v.value.map fun text => "='" ++ text ++ "'").getD "").toList)
    return 0
  | words =>
    words.forM fun word => declare word change
    return 0

/-- Variables of a function are declared. -/
def localTool : Tool := fun arguments => do
  match (← get).locals with
  | [] => abort "not in a function"
  | frame :: outer =>
    let names := arguments.map fun word => String.ofList (word.toList.takeWhile (· != '='))
    modify fun s =>
      let fresh := names.filter fun n => !(frame.any (·.1 == n))
      { s with locals := ((fresh.map fun n => (n, s.binding? n)) ++ frame) :: outer }
    arguments.forM fun word => declare word id
    return 0

/-- Variables or functions are forgotten. -/
def unsetTool : Tool := fun arguments => do
  let (found, names) := options [] arguments
  names.forM fun name => do
    if hasOption found 'f' then
      modify fun s => { s with functions := s.functions.filter (·.1 != name) }
    else if !isName name.toList then abort (name ++ ": bad variable name")
    else if ((← get).binding? name).any (·.fixed) then
      abort (name ++ ": is read only")
    else modify fun s => s.dropVariable name
  return 0

/-- The options that have a name. -/
def optionNames : List (String × Char) :=
  [("errexit", 'e'), ("noglob", 'f'), ("ignoreeof", 'I'), ("interactive", 'i'), ("monitor", 'm'),
   ("noexec", 'n'), ("stdin", 's'), ("xtrace", 'x'), ("verbose", 'v'), ("vi", 'V'), ("emacs", 'E'),
   ("noclobber", 'C'), ("allexport", 'a'), ("notify", 'b'), ("nounset", 'u'), ("nolog", 'L'),
   ("debug", 'D')]

/-- An option is set, or not set any more. -/
def State.setOption (s : State) (on : Bool) (letter : Char) : State :=
  let others := s.options.filter (· != letter)
  { s with options := if on then others ++ [letter] else others }

/-- The letters of options are taken up; `false` if one of them takes a name. One letter only counts
where a shell is `called`. -/
def setLetters (called on : Bool) : List Char → Doing Bool
  | [] => return true
  | 'o' :: _ => return false
  | c :: rest => do
    if optionNames.any (·.2 == c) || (called && c == 'c') then
      modify fun s => s.setOption on c
      setLetters called on rest
    else abort ("Illegal option " ++ (if on then "-" else "+") ++ String.singleton c)

/-- Options are set as some words say, up to the first one that is none; the answer is the other
words, and whether a word has said that no options follow. -/
def setOptions (called : Bool) : List String → Doing (List String × Bool)
  | [] => return ([], false)
  | word :: rest => do
    match word.toList with
    | ['-'] => return (rest, !rest.isEmpty)
    | ['-', '-'] => return (rest, true)
    | sign :: c :: cs =>
      if sign == '-' || sign == '+' then
        let on := sign == '-'
        if ← setLetters called on (c :: cs) then setOptions called rest
        else
          match rest with
          | name :: rest =>
            match optionNames.find? (·.1 == name) with
            | some (_, letter) =>
              modify fun s => s.setOption on letter
              setOptions called rest
            | none => abort ("Illegal option -o " ++ name)
          | [] => return ([], false)
      else return (word :: rest, false)
    | _ => return (word :: rest, false)

/-- Options and arguments are set, or all variables are listed. -/
def setTool : Tool := fun words => do
  match words with
  | [] =>
    let lines := (← get).bindings.filterMap fun (name, v) =>
      v.value.map fun text => name ++ "='" ++ text ++ "'"
    emitLines ((lines.mergeSort (· ≤ ·)).map (·.toList))
    return 0
  | _ =>
    let (arguments, ended) ← setOptions false words
    if ended || !arguments.isEmpty then modify fun s => { s with arguments }
    return 0

/-- The first arguments are dropped. -/
def shiftTool : Tool := fun words => do
  let n ← match words with
    | [] => pure 1
    | text :: _ => countOf text
  if (← get).arguments.length < n then abort "can't shift that many"
  else
    modify fun s => { s with arguments := s.arguments.drop n }
    return 0

/-- The number of a signal, or zero for the end, as it is named in a trap. -/
def trapNumber? (text : String) : Option Nat :=
  match Text.decimal? text.toList with
  | some n => if n < Signal.bound then some n else none
  | none => if text.toUpper == "EXIT" then some 0 else Signal.number? text

/-- It is said what is to be done about signals, or at the end. -/
def trapTool : Tool := fun words => do
  match (if words.head? == some "--" then words.drop 1 else words) with
  | [] =>
    emitLines ((← get).traps.map fun (n, action) =>
      ("trap -- '" ++ action ++ "' " ++ if n = 0 then "EXIT" else Signal.label n).toList)
    return 0
  | first :: rest =>
    let (action, names) :=
      if rest.isEmpty || (Text.decimal? first.toList).isSome then ("-", first :: rest)
      else (first, rest)
    let statuses ← names.mapM fun name => do
      match trapNumber? name with
      | none =>
        let _ ← emit 2 ("trap: " ++ name ++ ": bad trap\n")
        return 1
      | some n =>
        modify fun s =>
          let others := s.traps.filter (·.1 != n)
          { s with traps := if action == "-" then others else others ++ [(n, action)] }
        return 0
    return statuses.foldl max 0

/-- A line that is read, with the backslashes before other characters taken away, and its characters
marked that they protect; `false` if the line goes on behind its end. -/
def unprotect : List Char → List (Bool × Char) × Bool
  | [] => ([], true)
  | ['\\'] => ([], false)
  | '\\' :: c :: rest =>
    let (cs, ends) := unprotect rest
    ((true, c) :: cs, ends)
  | c :: rest =>
    let (cs, ends) := unprotect rest
    ((false, c) :: cs, ends)

/-- The lines that are read as one, at most `fuel` of them, and whether the last one has an end. -/
def readLogical (raw : Bool) : (fuel : Nat) → Doing (List (Bool × Char) × Bool)
  | 0 => return ([], false)
  | fuel + 1 => do
    let (line, ends) ← readLine 0
    if raw then return (line.map (false, ·), ends)
    else
      let (cs, complete) := unprotect line
      if complete || !ends then return (cs, ends)
      else
        let (more, ends) ← readLogical raw fuel
        return (cs ++ more, ends)

/-- The parts of a line for so many variables; the last one gets all that is left. -/
def partsOfLine (separators : List Char) : (count : Nat) → List (Bool × Char) → List String
  | 0, _ => []
  | count + 1, line =>
    let isSeparator : Bool × Char → Bool := fun (quoted, c) => !quoted && separators.contains c
    let isBlank : Bool × Char → Bool := fun (quoted, c) =>
      isSeparator (quoted, c) && [' ', '\t', '\n'].contains c
    let line := line.dropWhile isBlank
    if count = 0 then
      let whole := (line.reverse.dropWhile isBlank).reverse
      let single := match whole.getLast? with
        | some last =>
          if isSeparator last && !(whole.dropLast.any isSeparator) then whole.dropLast else whole
        | none => whole
      [Field.text single]
    else
      let first := line.takeWhile fun x => !isSeparator x
      let rest := (line.drop first.length).dropWhile isBlank
      let rest := match rest with
        | x :: more => if isSeparator x then more else rest
        | [] => []
      Field.text first :: partsOfLine separators count rest

/-- A line is read into variables. -/
def readTool : Tool := fun words => do
  let (found, names) := options ['p'] words
  if names.isEmpty then
    complain "arg count"
    return 2
  else
    let (line, ends) ← readLogical (hasOption found 'r') 1000
    let parts := partsOfLine (← get).separators names.length line
    (names.zip parts).forM fun (name, value) => do
      if isName name.toList then setVariable name value
      else abort (name ++ ": bad variable name")
    return if ends then 0 else 1

/-- An option that was found: its letter, the value that stands with it, whether that value took an
argument of its own, and where the next option is looked for. -/
structure FoundOption where
  letter : Char
  value : Option String := none
  separate : Bool := false
  offset : Nat := 0

/-- The next option among some arguments, behind so many characters of the first one, if an option
comes next; `known` are the letters of options, each followed by a colon if the option has a
value. -/
def nextOption? (known : List Char) (offset : Nat) (arguments : List String) : Option FoundOption :=
  match arguments with
  | [] => none
  | word :: rest =>
    match word.toList, word.toList.drop (max 1 offset) with
    | '-' :: _, c :: more =>
      if word == "--" then none
      else if ((known.dropWhile (· != c)).drop 1).head? == some ':' then
        if !more.isEmpty then some { letter := c, value := some (String.ofList more) }
        else some { letter := c, value := rest.head?, separate := !rest.isEmpty }
      else some { letter := c, offset := if more.isEmpty then 0 else max 1 offset + 1 }
    | _, _ => none

/-- The next option is looked for among the arguments, and put into a variable. -/
def getoptsTool : Tool := fun words => do
  match words with
  | known :: name :: rest =>
    let s ← get
    let arguments := if rest.isEmpty then s.arguments else rest
    let index := ((s.variableValue? "OPTIND").bind fun t => Text.decimal? t.toList).getD 1
    let position := if s.optionOffset = 0 then index else index - 1
    let silent := known.startsWith ":"
    match nextOption? known.toList s.optionOffset (arguments.drop (position - 1)) with
    | none =>
      let ended := arguments[position - 1]? == some "--"
      setVariable "OPTIND" (toString (if ended then position + 1 else position))
      setVariable name "?"
      return 1
    | some found =>
      setVariable "OPTIND" (toString (position + if found.separate then 2 else 1))
      modify fun s => { s with optionOffset := found.offset }
      let letter := String.singleton found.letter
      let isKnown := found.letter != ':' && known.toList.contains found.letter
      let lacks := isKnown && found.value.isNone &&
        ((known.toList.dropWhile (· != found.letter)).drop 1).head? == some ':'
      if isKnown && !lacks then
        setVariable name letter
        match found.value with
        | some value => setVariable "OPTARG" value
        | none => modify fun s => s.dropVariable "OPTARG"
      else if silent then
        setVariable name (if lacks then ":" else "?")
        setVariable "OPTARG" letter
      else
        let _ ← emit 2 ((if lacks then "No arg for -" ++ letter ++ " option"
          else "Illegal option -" ++ letter) ++ "\n")
        setVariable name "?"
      return 0
  | _ =>
    complain "Usage: getopts optstring var [arg...]"
    return 2

/-- The arguments are written on a line, with all escapes replaced. -/
def echoBuiltin : Tool := fun words => do
  let (silent, words) := match words with
    | "-n" :: rest => (true, rest)
    | _ => (false, words)
  let (cs, ends) := Format.unescape true (String.intercalate " " words).toList
  let done ← emit 1 (String.ofList cs ++ if ends || silent then "" else "\n")
  if done then return 0
  else
    complain "echo: I/O error"
    return 1

/-- What a command is that is looked up by its name. -/
def describe (verbose : Bool) (name : String) : Doing Bool := do
  let s ← get
  let say (text : String) : Doing Bool := do
    emitLines [(if verbose then name ++ " is " ++ text else text).toList]
    return true
  if reservedWords.contains name then say (if verbose then "a shell keyword" else name)
  else if specialBuiltins.contains name then
    say (if verbose then "a special shell builtin" else name)
  else if s.functions.any (·.1 == name) then say (if verbose then "a shell function" else name)
  else if regularBuiltins.contains name then say (if verbose then "a shell builtin" else name)
  else if (tool? name).isSome || runners.contains name then say ("/usr/bin/" ++ name)
  else
    if verbose then
      let _ ← emit 1 (name ++ ": not found\n")
    return false

/-- The command with a name that the shell performs without running other commands. -/
def builtin? (name : String) : Option Tool :=
  let loop (again : Bool) : Tool := fun words => do
    let n ← match words with
      | [] => pure 1
      | text :: _ => countOf text
    if n = 0 then abort "Illegal number: 0"
    let loops := (← get).loops
    if loops = 0 then return 0
    else
      modify fun s => { s with status := 0 }
      throw (.loop again (min n loops))
  match name with
  | ":" => some fun _ => return 0
  | "true" => some fun _ => return 0
  | "false" => some fun _ => return 1
  | "break" => some (loop false)
  | "continue" => some (loop true)
  | "exit" => some fun words => do
    let s ← get
    let n ← match words with
      | [] => pure (s.outerStatus.getD s.status)
      | text :: _ => countOf text
    throw (.exit (.status n))
  | "return" => some fun words => do
    let n ← match words with
      | [] => pure (← get).status
      | text :: _ => countOf text
    modify fun s => { s with status := n }
    throw .return
  | "export" => some (declareTool name (fun v => { v with exported := true }) (·.exported))
  | "readonly" => some (declareTool name (fun v => { v with fixed := true }) (·.fixed))
  | "local" => some localTool
  | "set" => some setTool
  | "shift" => some shiftTool
  | "times" => some fun _ => do
    let _ ← emit 1 "0m0.00s 0m0.00s\n0m0.00s 0m0.00s\n"
    return 0
  | "trap" => some trapTool
  | "unset" => some unsetTool
  | "[" => some (testTool name complain)
  | "test" => some (testTool name complain)
  | "cd" => some cdTool
  | "echo" => some echoBuiltin
  | "getopts" => some getoptsTool
  | "hash" => some fun words => do
    let s ← get
    let found ← words.mapM fun word => do
      if isBuiltin word || s.functions.any (·.1 == word) || (tool? word).isSome ||
          runners.contains word then return true
      else
        complain (word ++ ": not found")
        return false
    return if found.all id then 0 else 1
  | "fg" => some fun _ => do
    complain "No current job"
    return 2
  | "bg" => some fun _ => do
    complain "No current job"
    return 2
  | "unalias" => some fun words => do
    words.forM fun word => do
      let _ ← emit 2 ("unalias: " ++ word ++ " not found\n")
    return if words.isEmpty then 0 else 1
  | "kill" => some (killTool complain)
  | "printf" => some fun words => do
    if words.isEmpty then
      complain "usage: printf format [arg ...]"
      return 2
    else printfTool complain words
  | "pwd" => some fun _ => do
    let s ← get
    let _ ← emit 1 (((s.variableValue? "PWD").getD (FileTree.path s.files.current)) ++ "\n")
    return 0
  | "read" => some readTool
  | "type" => some fun words => do
    let found ← words.mapM (describe true)
    return if found.all id then 0 else 127
  | "ulimit" => some fun words => do
    if (options [] words).2.isEmpty then
      let _ ← emit 1 "unlimited\n"
    return 0
  | "umask" => some fun words => do
    if words.isEmpty then
      let _ ← emit 1 "0022\n"
    return 0
  | "wait" => some waitTool
  | _ => if regularBuiltins.contains name then some fun _ => return 0 else none

end ControlPlane.Shell
