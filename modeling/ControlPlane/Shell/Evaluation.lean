import ControlPlane.Shell.Builtins

/-!
# Running commands

Commands are run in the state of a shell. A command in parentheses, in a pipe, in the background or
whose output is wanted runs in a copy of it, of which only the effects on the outside are kept.

The functions take fuel, which is used up by every command inside another one and every round of a
loop; `State.patience` bounds the number of commands.

## Main definitions

- `inCopy`: something done in a copy of the shell.
- `run`: a command is run.
- `launch`: a program is run in place of the shell.
-/

namespace ControlPlane.Shell

/-- How deep functions and scripts may stand in each other. -/
def greatestDepth : Nat := 1000

/-- How a command is run. -/
structure Mode where
  /-- Somebody looks at the status, so that a failure is none of those with which a shell may
  end. -/
  tested : Bool := false
  /-- The process does nothing after it. -/
  last : Bool := false
deriving DecidableEq

/-- A command whose status is looked at. -/
def Mode.condition : Mode := { tested := true }

/-- The last command of a process. -/
def Mode.final : Mode := { last := true }

/-- A command after which the process does something. -/
def Mode.inner (m : Mode) : Mode := { m with last := false }

/-- Another command is to be run. When the patience with a shell is used up, the next signal to it
arrives; without one nothing happens any more. -/
def tick : Doing Unit := do
  let s ← get
  if 0 < s.patience then set { s with patience := s.patience - s.burden }
  else
    match s.firstSignal? fun d => s.clock < d.time && !Signal.isHarmless d.signal with
    | some d => set { s with clock := d.time, patience := fullPatience }
    | none => throw .stuck

/-- Words have been used. -/
def tire (words : List String) : Doing Unit :=
  modify fun s =>
    { s with patience := s.patience - words.foldl (fun n w => n + 8 + w.utf8ByteSize) 0 / 64 }

/-- What has become of a copy of a shell. -/
structure Departure where
  exit : Exit
  /-- When it has ended, if it has. -/
  ends : Option Nat
  /-- The state that it has left behind. -/
  state : State

/-- Something is done in a state from which nothing comes back but what it says. -/
def depart (s : State) (body : Doing Unit) : Departure :=
  let (result, t) := body.run.run s
  match result with
  | .error (.exit how) => ⟨how, some t.clock, t⟩
  | .error .fault => ⟨.status 2, some t.clock, t⟩
  | .error .stuck =>
    match t.rescue? with
    | some (how, time) => ⟨how, some time, t⟩
    | none => ⟨.status 0, none, t⟩
  | _ => ⟨.status t.status, some t.clock, t⟩

/-- Something is done in a copy of the shell, changed by `change`. Only the effects on the outside
are kept; the answer says how the copy has ended, and when. -/
def inCopy (change : State → State) (body : Doing Unit) : Doing (Exit × Option Nat) := do
  let s ← get
  let patience := s.patience - 20 * s.burden
  let d := depart (change { s with next := s.next + 1, patience }) body
  let t := d.state
  set { s with
    written := t.written, sources := t.sources, sent := t.sent, next := t.next
    files := { t.files with current := s.files.current }
    patience := min s.patience t.patience }
  return (d.exit, d.ends)

/-- Something is done that uses up half of the patience at most. -/
def apart {α : Type} (body : Doing α) : Doing α := do
  let reserve := (← get).patience / 2
  modify fun s => { s with patience := s.patience - reserve }
  let a ← body
  modify fun s => { s with patience := s.patience + reserve }
  return a

/-- What is changed in a copy of the shell: it is a process of its own, has no processes in the
background, and does nothing about signals but ignoring them. -/
def copied (s : State) : State :=
  { s with self := s.next - 1, parent := s.self, jobs := [], traps := s.traps.filter (·.2.isEmpty) }

/-- The process ends if a signal has arrived that ends it. -/
def perish : Doing Unit := do
  let s ← get
  match s.firstSignal? fun d => d.time ≤ s.clock && s.isDeadly d.signal with
  | some d =>
    set { s with clock := d.time }
    throw (.exit (.signal d.signal))
  | none => return

/-- The end of a copy is waited for, in silence. -/
def awaitSilently (departure : Exit × Option Nat) : Doing Nat := do
  match departure.2 with
  | none => throw .stuck
  | some time =>
    modify fun s => { s with clock := max s.clock time }
    perish
    return departure.1.code

/-- The process ends as a copy of it has ended. -/
def leaveWith (departure : Exit × Option Nat) : Doing Unit := do
  let _ ← awaitSilently departure
  throw (.exit departure.1)

/-- The end of a copy is waited for. It is said if a signal has ended it. -/
def await (departure : Exit × Option Nat) : Doing Nat := do
  let status ← awaitSilently departure
  announce departure.1
  return status

/-- Descriptors lead again where they led before. -/
def restoreStreams (streams : List (Nat × Stream)) : Doing Unit :=
  modify fun s => { s with streams }

/-- Where a descriptor is to lead, with all words replaced. -/
inductive Direction
  | file (descriptor : Nat) (opening : Opening) (path : String)
  | same (descriptor source : Nat)
  | close (descriptor : Nat)
  | text (descriptor : Nat) (text : String)
deriving DecidableEq

/-- Descriptors lead somewhere else; `false` if one of them cannot. -/
def directAll : List Direction → Doing Bool
  | [] => return true
  | .file descriptor opening path :: rest => do
    match ← openFile opening path with
    | .ok stream =>
      modify fun s => s.direct descriptor (some stream)
      directAll rest
    | .error message =>
      complain message
      return false
  | .same descriptor source :: rest => do
    match (← get).stream? source with
    | some stream =>
      modify fun s => s.direct descriptor (some stream)
      directAll rest
    | none =>
      complain (toString source ++ ": Bad file descriptor")
      return false
  | .close descriptor :: rest => do
    modify fun s => s.direct descriptor none
    directAll rest
  | .text descriptor text :: rest => do
    modify fun s =>
      let (source, s) := s.addSource text.toList
      s.direct descriptor (some (.source source))
    directAll rest

/-- The variables of a function are taken away again. -/
def leaveFunction : Doing Unit :=
  modify fun s =>
    let frame := s.locals.headD []
    let s := frame.foldl (fun s (name, v) =>
      match v with
      | some v => s.putVariable name v
      | none => s.dropVariable name) s
    { s with locals := s.locals.drop 1 }

/-- What a word that is found names. -/
inductive Program
  | known (name : String)
  /-- There is no such program. -/
  | missing
  /-- What is there is no program. -/
  | refused
deriving DecidableEq

/-- Where programs are looked for if nothing else is said. -/
def usualPath : String := "/usr/local/sbin:/usr/local/bin:/usr/sbin:/usr/bin:/sbin:/bin"

/-- Whether a name is that of a known program. -/
def isKnown (name : String) : Bool := (tool? name).isSome || runners.contains name

/-- What a word names. A word without a slash is looked up on the path. -/
def State.program (s : State) (word : String) : Program :=
  let names := FileTree.names word
  if word.toList.contains '/' then
    match names.getLast? with
    | some name =>
      if FileTree.programPlaces.contains names.dropLast && isKnown name &&
          !FileTree.endsInSlash word then
        .known name
      else if s.files.exists word then .refused else .missing
    | none => .refused
  else if word.isEmpty then .missing
  else if word == "." || word == ".." then .refused
  else
    let reachable := match s.variableValue? "PATH" with
      | some path => (Text.split ':' path.toList).any fun directory =>
        FileTree.programPlaces.contains (FileTree.names (String.ofList directory))
      | none => false
    if reachable && isKnown word then .known word else .missing

/-- The bindings at the front of some words, and the words after them. -/
def leadingBindings : List String → List (String × String) × List String
  | [] => ([], [])
  | word :: rest =>
    if word.toList.contains '=' then
      let name := word.toList.takeWhile (· != '=')
      let (bindings, words) := leadingBindings rest
      ((String.ofList name, String.ofList (word.toList.drop (name.length + 1))) :: bindings, words)
    else ([], word :: rest)

/-- The values that words get, one after another. -/
def bindAll (exported : Bool) : List (String × String) → Doing Unit
  | [] => return
  | (name, value) :: rest => do
    setVariable name value
    if exported then
      modify fun s => s.putVariable name { (s.binding? name).getD {} with exported := true }
    bindAll exported rest

/-- Variables are as they were before. -/
def restoreVariables (before : List (String × Option Variable)) : Doing Unit :=
  modify fun s => before.foldl (fun s (name, v) =>
    match v with
    | some v => s.putVariable name v
    | none => s.dropVariable name) s

/-- Words in groups of the given size, or all in one group if the size is zero; at least one
group. -/
def groups (size : Nat) (words : List String) : List (List String) :=
  if _h : size = 0 ∨ words.length ≤ size then [words]
  else words.take size :: groups size (words.drop size)
termination_by words.length
decreasing_by simp only [List.length_drop]; omega

/-- What the shell says of a parameter that has no value. -/
def missingText (name : String) (orEmpty : Bool) (message : String) : String :=
  name ++ ": " ++
    (if !message.isEmpty then message
    else "parameter not set" ++ if orEmpty then " or null" else "")

/-- The glyphs of the arguments of a shell. In quotes each of them is a field of its own, or all are
one text if they are joined. -/
def argumentGlyphs (s : State) (quoted joined : Bool) : List Glyph :=
  let origin := if quoted then Origin.quoted else .value
  if joined && quoted then
    glyphs origin (String.intercalate (String.ofList s.joint) s.arguments)
  else if s.arguments.isEmpty then [.void]
  else
    List.intercalate [.boundary] (s.arguments.map fun a =>
      if quoted then .quotes :: glyphs origin a else glyphs origin a)

/-- The value of an expression. -/
def compute (text : String) : Doing Int := do
  let s ← get
  let refuse (reason : String) : Doing Int :=
    abort ("arithmetic expression: " ++ reason ++ ": \"" ++ text ++ "\"")
  match (Expression.ofText text.toList).eval s.value? [] with
  | .error (.senseless reason) => refuse reason
  | .error .divisionByZero => refuse "division by zero"
  | .error (.illegalNumber wrong) => abort ("Illegal number: " ++ wrong)
  | .ok (n, set) =>
    set.reverse.forM fun (name, n) => setVariable name (toString n.toInt)
    return n.toInt

mutual

/-- What a word comes to. `loose` says that its characters may separate fields. -/
def expand : (fuel : Nat) → (loose : Bool) → Word → Doing (List Glyph)
  | 0, _, _ => throw .stuck
  | fuel + 1, loose, word => do
    let parts ← word.mapM (expandPart fuel loose)
    return parts.flatten

/-- What a part of a word comes to. -/
def expandPart : (fuel : Nat) → (loose : Bool) → Part → Doing (List Glyph)
  | 0, _, _ => throw .stuck
  | fuel + 1, loose, part => do
    match part with
    | .char quoted c =>
      return [.char (if quoted then .quoted else if loose then .value else .script) c]
    | .quotes => return [.quotes]
    | .output quoted command =>
      let text ← outputOf fuel command
      return glyphs (if quoted then .quoted else .value) text
    | .number quoted expression =>
      let gs ← expand fuel false expression
      let text := textOf (← get).joint gs
      let n ← compute text
      return glyphs (if quoted then .quoted else .value) (toString n)
    | .parameter quoted name use word => expandParameter fuel quoted name use word

/-- What a parameter comes to. -/
def expandParameter : (fuel : Nat) → (quoted : Bool) → String → Use → Word → Doing (List Glyph)
  | 0, _, _, _, _ => throw .stuck
  | fuel + 1, quoted, name, use, word => do
    let s ← get
    let all := name == "@" || name == "*"
    let value? := if all then
        if s.arguments.isEmpty then none else some (String.intercalate " " s.arguments)
      else s.value? name
    let value := value?.getD ""
    let origin := if quoted then Origin.quoted else .value
    let given : List Glyph :=
      if all then argumentGlyphs s quoted (name == "*") else glyphs origin value
    let lacking (orEmpty : Bool) : Bool := value?.isNone || (orEmpty && value.isEmpty)
    let demand : Doing Unit := do
      if value?.isNone && !all && s.isSet 'u' then abort (name ++ ": parameter not set")
    match use with
    | .value =>
      demand
      return given
    | .length =>
      demand
      return glyphs origin (toString value.utf8ByteSize)
    | .instead orEmpty => if lacking orEmpty then expand fuel (!quoted) word else return given
    | .alternative orEmpty => if lacking orEmpty then return [] else expand fuel (!quoted) word
    | .assign orEmpty =>
      if lacking orEmpty then
        let gs ← expand fuel false word
        let text := textOf s.joint gs
        if !isName name.toList then abort (name ++ ": bad variable name")
        setVariable name text
        return glyphs origin text
      else return given
    | .insist orEmpty =>
      if lacking orEmpty then
        abort (missingText name orEmpty (textOf s.joint (← expand fuel false word)))
      else return given
    | .trimStart longest =>
      demand
      let pattern := Pattern.read (fieldOf (← get).joint (← expand fuel false word))
      return glyphs origin (String.ofList (Pattern.trimStart longest pattern value.toList))
    | .trimEnd longest =>
      demand
      let pattern := Pattern.read (fieldOf (← get).joint (← expand fuel false word))
      return glyphs origin (String.ofList (Pattern.trimEnd longest pattern value.toList))
    | .senseless => abort "Bad substitution"

/-- What a command writes, without the ends of lines behind it. -/
def outputOf : (fuel : Nat) → Command → Doing String
  | 0, _ => throw .stuck
  | fuel + 1, command => do
    let sink := (← get).next
    let departure ← inCopy (fun s =>
        let s := copied { s with next := s.next + 1 }
        s.direct 1 (some (.sink sink)))
      (finish fuel (run fuel .final command))
    let status ← await departure
    let s ← get
    let text := s.collected sink
    set { s.discard sink with innerStatus := some status }
    return String.ofList ((text.toList.reverse.dropWhile (· == '\n')).reverse)

/-- The fields of several words. -/
def fields : (fuel : Nat) → List Word → Doing (List String)
  | 0, _ => throw .stuck
  | fuel + 1, words => do
    let found ← words.mapM fun word => do
      let home := (← get).variableValue? "HOME"
      let gs ← expand fuel false (withHome home word)
      let s ← get
      let fs := fieldsOf s.separators gs
      return if s.isSet 'f' then fs.map Field.text else fs.flatMap (pathsOf s.files)
    return found.flatten

/-- The text of a word that stays one. -/
def wordText : (fuel : Nat) → Word → Doing String
  | 0, _ => throw .stuck
  | fuel + 1, word => do
    let home := (← get).variableValue? "HOME"
    let gs ← expand fuel false (withHome home word)
    return textOf (← get).joint gs

/-- What a redirection comes to. -/
def expandRedirection : (fuel : Nat) → Redirection → Doing Direction
  | 0, _ => throw .stuck
  | fuel + 1, r => do
    match r with
    | .file descriptor opening word => return .file descriptor opening (← wordText fuel word)
    | .duplicate descriptor word =>
      let text ← wordText fuel word
      if text == "-" then return .close descriptor
      else
        match Text.decimal? text.toList with
        | none => abort "Syntax error: Bad fd number"
        | some source => return .same descriptor source
    | .document descriptor number =>
      let word := (((← get).documents.find? (·.1 == number)).map (·.2)).getD []
      let gs ← expand fuel false word
      return .text descriptor (textOf (← get).joint gs)

/-- Descriptors lead somewhere else; `false` if one of them cannot. -/
def redirect : (fuel : Nat) → List Redirection → Doing Bool
  | 0, _ => throw .stuck
  | fuel + 1, rs => do directAll (← rs.mapM (expandRedirection fuel))

/-- The signals that have arrived take effect. -/
def attend : (fuel : Nat) → Doing Unit
  | 0 => return
  | fuel + 1 => do
    let s ← get
    match s.firstSignal? (·.time ≤ s.clock) with
    | none => return
    | some d =>
      set { s with sent := s.sent.erase d }
      if s.isDeadly d.signal then
        modify fun s => { s with clock := d.time }
        throw (.exit (.signal d.signal))
      else
        match (s.trap? d.signal).filter fun _ => Signal.isCatchable d.signal with
        | some action =>
          if !action.isEmpty then
            set { (← get) with outerStatus := some s.status }
            evaluate fuel {} action
            modify fun t => { t with status := s.status, outerStatus := s.outerStatus }
        | none => if Signal.isStopping d.signal then throw .stuck
      attend fuel

/-- What is done at the end of a shell is done after `body`. -/
def finish : (fuel : Nat) → (body : Doing Unit) → Doing Unit
  | 0, _ => throw .stuck
  | fuel + 1, body => do
    let how : Except Interrupt Unit ← tryCatch (body.map Except.ok) fun i => return .error i
    match how with
    | .error (.exit (.status n)) => modify fun s => { s with status := n }
    | .error (.exit (.signal n)) => throw (.exit (.signal n))
    | .error .stuck => throw .stuck
    | .error .fault => modify fun s => { s with status := 2 }
    | _ => pure ()
    let s ← get
    match s.trap? 0 with
    | some action =>
      set { s with
        traps := s.traps.filter (·.1 != 0), loops := 0, outerStatus := some s.status }
      evaluate fuel {} action
      throw (.exit (.status s.status))
    | none => throw (.exit (.status s.status))

/-- The commands that a text says are run. -/
def evaluate : (fuel : Nat) → Mode → (text : String) → Doing Unit
  | 0, _, _ => throw .stuck
  | fuel + 1, mode, text => do
    let script := Script.ofText text.toList (← get).nextDocument
    modify fun s =>
      { s with documents := script.documents ++ s.documents, nextDocument := script.next }
    if script.lines.all (·.isNothing) then modify fun s => { s with status := 0 }
    script.lines.forM (run fuel mode.inner)
    match script.fault with
    | none => return
    | some fault =>
      modify fun s => { s with line := fault.line }
      abort ("Syntax error: " ++ fault.reason)

/-- A command is run. -/
def run : (fuel : Nat) → Mode → Command → Doing Unit
  | 0, _, _ => throw .stuck
  | fuel + 1, mode, command => do
    let demand : Doing Unit := do
      let s ← get
      if s.status != 0 && !mode.tested && s.isSet 'e' then throw (.exit (.status s.status))
    let having (status : Nat) : Doing Unit := modify fun s => { s with status }
    if (← get).isSet 'n' then return
    match command with
    | .nothing => return
    | .simple line bindings words redirections =>
      tick
      modify fun s => { s with line }
      simple fuel mode bindings words redirections
      attend fuel
      demand
    | .negated command =>
      run fuel .condition command
      having (if (← get).status = 0 then 1 else 0)
    | .both first second =>
      run fuel .condition first
      if (← get).status = 0 then run fuel mode second
    | .either first second =>
      run fuel .condition first
      if (← get).status != 0 then run fuel mode second
    | .sequence first second =>
      run fuel mode.inner first
      run fuel mode second
    | .choice condition yes no =>
      run fuel .condition condition
      if (← get).status = 0 then run fuel mode yes
      else if no.isNothing then having 0
      else run fuel mode no
    | .loop whileTrue condition body =>
      modify fun s => { s with loops := s.loops + 1 }
      let status ← rounds fuel mode whileTrue condition body 0
      modify fun s => { s with loops := s.loops - 1, status }
    | .each name words body =>
      let values ← match words with
        | some words => fields fuel words
        | none => pure (← get).arguments
      modify fun s => { s with
        loops := s.loops + 1
        status := if values.isEmpty then 0 else s.status }
      turns fuel mode name body values
      modify fun s => { s with loops := s.loops - 1 }
    | .select word cases =>
      let text ← wordText fuel word
      select fuel mode text.toList cases
    | .define name body =>
      modify fun s =>
        { s with functions := (name, body) :: s.functions.filter (·.1 != name), status := 0 }
    | .subshell command =>
      tick
      let departure ← inCopy copied (finish fuel (run fuel { mode with last := true } command))
      if mode.last && !(← get).hasTraps then leaveWith departure
      having (← await departure)
      attend fuel
      demand
    | .redirected line (.subshell command) redirections =>
      tick
      modify fun s => { s with line }
      let departure ← inCopy copied (finish fuel (do
        if ← redirect fuel redirections then run fuel { mode with last := true } command
        else throw (.exit (.status 2))))
      if mode.last && !(← get).hasTraps then leaveWith departure
      having (← await departure)
      attend fuel
      demand
    | .background command =>
      let departure ← apart (inCopy (fun s => (copied s).direct 0 (some .nowhere))
        (finish fuel (run fuel .final command)))
      modify fun s =>
        let number := s.jobs.foldl (fun n j => max n j.number) 0 + 1
        { s with
          jobs := s.jobs ++ [⟨s.next, number, departure.2, departure.1⟩]
          next := s.next + 1, status := 0 }
    | .pipe commands =>
      let start ← get
      let ends ← stages fuel mode (start.stream? 0) start.clock commands
      having ends
      attend fuel
      demand
    | .redirected line command redirections =>
      modify fun s => { s with line }
      let streams := (← get).streams
      if ← redirect fuel redirections then
        let how : Except Interrupt Unit ←
          tryCatch ((run fuel mode.inner command).map Except.ok) fun i => return .error i
        restoreStreams streams
        match how with
        | .ok () => return
        | .error i => throw i
      else
        restoreStreams streams
        having 2
        demand

/-- The rounds of a loop; the answer is the status of the last one. -/
def rounds : (fuel : Nat) → Mode → (whileTrue : Bool) → (condition body : Command) →
    (status : Nat) →
    Doing Nat
  | 0, _, _, _, _, _ => throw .stuck
  | fuel + 1, mode, whileTrue, condition, body, status => do
    let round : Doing (Option Nat) := do
      run fuel .condition condition
      if ((← get).status == 0) != whileTrue then return some status
      else
        run fuel mode.inner body
        return none
    let outcome ← tryCatch round fun
      | .loop again levels => do
        if 1 < levels then
          modify fun s => { s with loops := s.loops - 1 }
          throw (.loop again (levels - 1))
        else if again then return none
        else return some 0
      | i => throw i
    match outcome with
    | some status => return status
    | none => rounds fuel mode whileTrue condition body (← get).status

/-- The turns of a loop over values. -/
def turns : (fuel : Nat) → Mode → String → Command → List String → Doing Unit
  | 0, _, _, _, _ => throw .stuck
  | _, _, _, _, [] => return
  | fuel + 1, mode, name, body, value :: rest => do
    setVariable name value
    let goesOn ← tryCatch (do run fuel mode.inner body; return true) fun
      | .loop again levels => do
        if 1 < levels then
          modify fun s => { s with loops := s.loops - 1 }
          throw (.loop again (levels - 1))
        else return again
      | i => throw i
    if goesOn then turns fuel mode name body rest

/-- The first case is run that a text fits. -/
def select : (fuel : Nat) → Mode → List Char → List (List Word × Command) → Doing Unit
  | 0, _, _, _ => throw .stuck
  | _, _, _, [] => modify fun s => { s with status := 0 }
  | fuel + 1, mode, text, (patterns, body) :: rest => do
    if ← fitsAny fuel text patterns then
      if body.isNothing then modify fun s => { s with status := 0 } else run fuel mode body
    else select fuel mode text rest

/-- Whether a text fits one of several patterns. -/
def fitsAny : (fuel : Nat) → List Char → List Word → Doing Bool
  | 0, _, _ => throw .stuck
  | _, _, [] => return false
  | fuel + 1, text, word :: rest => do
    let pattern := Pattern.read (fieldOf (← get).joint (← expand fuel false word))
    if Pattern.accepts pattern text then return true else fitsAny fuel text rest

/-- The commands of a pipe are run, the first one with the given input, all from the same instant
on; the answer is the status of the last one. -/
def stages : (fuel : Nat) → Mode → Option Stream → (start : Nat) → List Command → Doing Nat
  | 0, _, _, _, _ => throw .stuck
  | _, _, _, _, [] => return 0
  | fuel + 1, mode, input, start, command :: rest => do
    tick
    let sink := (← get).next
    let departure ← inCopy (fun s =>
        let s := { copied { s with next := s.next + 1 } with clock := start }
        let s := s.direct 0 input
        if rest.isEmpty then s else s.direct 1 (some (.sink sink)))
      (finish fuel (run fuel { mode with last := true } command))
    if rest.isEmpty then await departure
    else
      let s ← get
      let text := s.collected sink
      let (source, s) := (s.discard sink).addSource text.toList
      set s
      let status ← stages fuel mode (some (.source source)) start rest
      modify fun s => s.dropSource source
      let _ ← await departure
      return status

/-- A simple command is run. -/
def simple : (fuel : Nat) → Mode → List (String × Word) → List Word → List Redirection →
    Doing Unit
  | 0, _, _, _, _ => throw .stuck
  | fuel + 1, mode, bindings, words, redirections => do
    modify fun s => { s with innerStatus := none }
    let declares := (words.head?.bind plain?).any fun cs =>
      ["export", "local", "readonly"].contains (String.ofList cs)
    let values ← if declares then do
        let found ← words.mapM fun word =>
          if (assignment? word).isSome then do return [← wordText fuel word] else fields fuel [word]
        pure found.flatten
      else fields fuel words
    let streams := (← get).streams
    let bound : Doing (List (String × String)) :=
      bindings.mapM fun (name, word) => do return (name, ← wordText fuel word)
    if !(← redirect fuel redirections) then
      restoreStreams streams
      modify fun s => { s with status := 2 }
      if values.head?.any specialBuiltins.contains then throw .fault
    else
      match values with
      | [] =>
        bindings.forM fun (name, word) => do
          let value ← wordText fuel word
          tire [value]
          setVariable name value
        restoreStreams streams
        modify fun s => { s with status := s.innerStatus.getD 0 }
      | name :: arguments =>
        let bound ← bound
        tire values
        if (← get).isSet 'x' then
          let _ ← emit 2 ("+ " ++ String.intercalate " "
            (bound.map (fun (n, v) => n ++ "=" ++ v) ++ values) ++ "\n")
        let before := bound.map fun (n, _) => n
        let old := (← get)
        let saved := before.map fun n => (n, old.binding? n)
        let isSpecial := specialBuiltins.contains name
        let isFunction := old.functions.any (·.1 == name)
        bindAll (!isSpecial) bound
        let how : Except Interrupt Unit ←
          tryCatch ((call fuel mode true name arguments).map Except.ok) fun i => return .error i
        if isFunction || !isSpecial then restoreVariables saved
        if !(name == "exec" && arguments.isEmpty) then restoreStreams streams
        match how with
        | .ok () => return
        | .error i => throw i

/-- A command is called by its name, perhaps as a function of that name. -/
def call : (fuel : Nat) → Mode → (withFunctions : Bool) → String → List String → Doing Unit
  | 0, _, _, _, _ => throw .stuck
  | fuel + 1, mode, withFunctions, name, arguments => do
    let having (status : Nat) : Doing Unit := modify fun s => { s with status }
    let s ← get
    match (s.functions.find? (·.1 == name)).filter fun _ =>
        withFunctions && !specialBuiltins.contains name with
    | some (_, body) =>
      if s.depth ≥ greatestDepth then
        abort ("Maximum function recursion depth (" ++ toString greatestDepth ++ ") reached")
      set { s with arguments, locals := [] :: s.locals, loops := 0, depth := s.depth + 1 }
      let how : Except Interrupt Unit ←
        tryCatch ((run fuel mode.inner body).map Except.ok) fun i => return .error i
      leaveFunction
      modify fun t => { t with arguments := s.arguments, loops := s.loops, depth := s.depth }
      match how with
      | .error .return => return
      | .error (.loop _ _) => return
      | .error i => throw i
      | .ok () => return
    | none =>
      let speaking (speaker : String) (body : Doing Unit) : Doing Unit := do
        modify fun s => { s with speaker := some speaker }
        let how : Except Interrupt Unit ← tryCatch (body.map Except.ok) fun i => return .error i
        modify fun t => { t with speaker := s.speaker }
        match how with
        | .ok () => return
        | .error .fault =>
          if withFunctions && specialBuiltins.contains name then throw .fault else having 2
        | .error i => throw i
      match name with
      | "eval" =>
        speaking name (evaluate fuel mode.inner (String.intercalate " " arguments))
      | "." =>
        match arguments with
        | [] => return
        | path :: _ =>
          speaking name (do
            match s.files.read path with
            | .error _ => abort ("cannot open " ++ path ++ ": No such file")
            | .ok content =>
              speaking path (tryCatch
                (evaluate fuel mode.inner ((Text.ofUtf8? content).getD "")) fun
                  | .return => return
                  | i => throw i))
      | "exec" =>
        match arguments with
        | [] => having 0
        | word :: _ =>
          modify fun s => { s with traps := s.traps.filter (·.2.isEmpty) }
          match if word.isEmpty then Program.refused else s.program word with
          | .known _ => throw (.exit (← launch fuel arguments))
          | .missing => speaking name (do
            complain (word ++ ": not found")
            throw (.exit (.status 127)))
          | .refused => speaking name (do
            complain (word ++ ": Permission denied")
            throw (.exit (.status 126)))
      | "command" =>
        match arguments with
        | [] => having 0
        | "-v" :: names =>
          let found ← (names.take 1).mapM (describe false)
          having (if found.all id then 0 else 127)
        | "-V" :: names =>
          let found ← (names.take 1).mapM (describe true)
          having (if found.all id then 0 else 127)
        | "-p" :: name :: arguments => call fuel mode false name arguments
        | name :: arguments => call fuel mode false name arguments
      | _ =>
        match builtin? name with
        | some tool => speaking name (do having (← tool arguments))
        | none =>
          if mode.last && !s.hasTraps then throw (.exit (← launch fuel (name :: arguments)))
          let departure ← inCopy copied (do throw (.exit (← launch fuel (name :: arguments))))
          having (← await departure)

/-- A program is run in place of the shell; the answer says how it ends. -/
def launch : (fuel : Nat) → List String → Doing Exit
  | 0, _ => throw .stuck
  | _, [] => return .status 0
  | fuel + 1, word :: arguments => do
    match (← get).program word with
    | .missing =>
      complain (word ++ if word.isEmpty then ": Permission denied" else ": not found")
      return .status 127
    | .refused =>
      complain (word ++ ": Permission denied")
      return .status (if word.toList.contains '/' then 126 else 127)
    | .known name =>
      modify fun s => { s with traps := s.traps.filter (·.2.isEmpty), jobs := [] }
      match name with
      | "sh" => shell fuel word arguments
      | "dash" => shell fuel word arguments
      | "bash" => shell fuel word arguments
      | "env" => withEnvironment fuel arguments
      | "nohup" => launchFor fuel "nohup: failed to run command '" "'" arguments
      | "setsid" => launchFor fuel "setsid: failed to execute " "" arguments
      | "nice" => launchFor fuel "nice: '" "'" (options ['n'] arguments).2
      | "stdbuf" =>
        launchFor fuel "stdbuf: failed to run command '" "'" (options ['i', 'o', 'e'] arguments).2
      | "timeout" => timed fuel arguments
      | "xargs" =>
        let text := (← readAll 0).getD []
        let (found, command) := options ['n', 'I', 'P', 'L'] arguments
        let command := if command.isEmpty then ["echo"] else command
        let words := (wordsOf text).map String.ofList
        let size := ((option? found 'n').bind fun n => Text.decimal? n.toList).getD 0
        let statuses ← (groups size words).mapM fun group => do
          let departure ← inCopy copied (do
            throw (.exit (← launchFor fuel "xargs: " "" (command ++ group))))
          awaitSilently departure
        let status := statuses.foldl max 0
        return .status (if status = 0 || status = 127 || status = 126 then status else 123)
      | _ =>
        match tool? name with
        | some tool =>
          let status ← tool arguments
          attend fuel
          return .status status
        | none => return .status 127

/-- A program is run in place of another program, which complains if there is none: its message has
the word between the given texts. -/
def launchFor : (fuel : Nat) → (before after : String) → List String → Doing Exit
  | 0, _, _, _ => throw .stuck
  | _, _, _, [] => return .status 125
  | fuel + 1, before, after, word :: arguments => do
    match (← get).program word with
    | .known _ => launch fuel (word :: arguments)
    | .missing =>
      let _ ← emit 2 (before ++ word ++ after ++ ": No such file or directory\n")
      return .status 127
    | .refused =>
      let _ ← emit 2 (before ++ word ++ after ++ ": Permission denied\n")
      return .status 126

/-- A program is run with other variables. -/
def withEnvironment : (fuel : Nat) → List String → Doing Exit
  | 0, _ => throw .stuck
  | fuel + 1, arguments => do
    match arguments with
    | "-i" :: rest =>
      modify fun s => { s with bindings := [] }
      withEnvironment fuel rest
    | "-" :: rest =>
      modify fun s => { s with bindings := [] }
      withEnvironment fuel rest
    | "-u" :: name :: rest =>
      modify fun s => s.dropVariable name
      withEnvironment fuel rest
    | "--" :: rest => withEnvironment fuel rest
    | _ =>
      let (bindings, words) := leadingBindings arguments
      bindAll true bindings
      match words with
      | [] => return .status (← printenvTool [])
      | _ =>
        modify fun s => if (s.variableValue? "PATH").isSome then s
          else s.putVariable "PATH" { value := some usualPath }
        launchFor fuel "env: '" "'" words

/-- A program is run for some time at most. -/
def timed : (fuel : Nat) → List String → Doing Exit
  | 0, _ => throw .stuck
  | fuel + 1, arguments => do
    let (found, words) := options ['s', 'k'] (arguments.filter fun a =>
      a != "--preserve-status" && a != "--foreground" && a != "--verbose")
    let preserving := arguments.contains "--preserve-status"
    let signal := ((option? found 's').bind fun text =>
      (Text.decimal? text.toList).or (Signal.number? text)).getD 15
    match words with
    | [] =>
      let _ ← emit 2 "Try 'timeout --help' for more information.\n"
      return .status 125
    | length :: command =>
      match seconds? length with
      | none =>
        gripe "timeout" ("invalid time interval '" ++ length ++
          "'\nTry 'timeout --help' for more information.")
        return .status 125
      | some limit =>
        if command.isEmpty then
          let _ ← emit 2 "Try 'timeout --help' for more information.\n"
          return .status 125
        let begun := (← get).clock
        let (how, ends) ← apart (inCopy copied (do
          throw (.exit (← launchFor fuel "timeout: failed to run command '" "'" command))))
        let latest := match limit with
          | some 0 => none
          | _ => limit.map (begun + ·)
        let late : Bool := match ends, latest with
          | some t, some l => l < t
          | none, some _ => true
          | _, none => false
        if late then
          modify fun s => { s with clock := latest.getD s.clock }
          if signal = 9 then return .signal 9
          else return .status (if preserving then 128 + signal else 124)
        else
          let status ← awaitSilently (how, ends)
          match how with
          | .signal n => return .signal n
          | .status _ => return .status status

/-- A shell is run in place of this one. -/
def shell : (fuel : Nat) → (name : String) → List String → Doing Exit
  | 0, _, _ => throw .stuck
  | fuel + 1, name, arguments => do
    let s ← get
    set { s with
      bindings := s.bindings.filter (·.2.exported), name, functions := [], options := []
      status := 0, process := s.self, line := 0, loops := 0, depth := s.depth + 1, locals := []
      arguments := [], speaker := none }
    if s.depth ≥ greatestDepth then throw .stuck
    if (s.variableValue? "PATH").isNone then setVariable "PATH" usualPath
    setVariable "PPID" (toString s.parent)
    let (words, _) ← setOptions true arguments
    let wantsText := (← get).isSet 'c'
    modify fun s => s.setOption false 'c'
    let text : Option String ← match wantsText, words with
      | true, [] => abort "-c requires an argument"
      | true, text :: rest =>
        modify fun s => { s with name := rest.headD s.name, arguments := rest.drop 1 }
        pure (some text)
      | false, [] => pure (some (String.ofList ((← readAll 0).getD [])))
      | false, path :: rest =>
        if (← get).isSet 's' then
          modify fun s => { s with arguments := path :: rest }
          pure (some (String.ofList ((← readAll 0).getD [])))
        else
          match s.files.read path with
          | .ok content =>
            modify fun s => { s with name := path, arguments := rest }
            pure (Text.ofUtf8? content)
          | .error _ => abort ("cannot open " ++ path ++ ": No such file")
    modify fun s => { s with line := 1 }
    tryCatch (do finish fuel (evaluate fuel {} (text.getD "")); return .status 0) fun
      | .exit how => return how
      | i => throw i

end

end ControlPlane.Shell
