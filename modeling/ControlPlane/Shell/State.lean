import ControlPlane.FileTree.Machine
import ControlPlane.Shell.Pattern
import ControlPlane.Shell.Reader
import ControlPlane.Shell.Signal
import ControlPlane.Text.Numeral
import ControlPlane.Text.Utf8

/-!
# The state of a shell

A shell is run under a clock of its own: nothing takes time but programs and pauses. What is written
is kept with the instant at which it was written, and signals are kept until they are due.

## Main definitions

- `State`: the state of a shell and of everything around it.
- `Doing`: something that a shell does, which may end it.
- `State.value?`: the value of a parameter.
- `emit`, `readAll`, `readLine`: writing and reading.
- `openFile`: opening a file for a descriptor.
- `send`: sending a signal.
-/

namespace ControlPlane.Shell

/-- A variable. -/
structure Variable where
  value : Option String := none
  /-- Whether programs are told of it. -/
  exported : Bool := false
  fixed : Bool := false
deriving DecidableEq

/-- Where a descriptor leads. -/
inductive Stream
  | nowhere
  /-- What is written is collected under a number. -/
  | sink (number : Nat)
  /-- What is read comes from a text with a number. -/
  | source (number : Nat)
  /-- What is written is added to a file. -/
  | file (place : List String)
  /-- Nothing can be read or written. -/
  | broken
deriving DecidableEq

/-- A text that was written to a sink. -/
structure Writing where
  time : Nat
  sink : Nat
  text : String
deriving DecidableEq

/-- A signal that was sent to a process. -/
structure Delivery where
  time : Nat
  target : Nat
  signal : Nat
deriving DecidableEq

/-- A process that was started in the background. -/
structure Job where
  process : Nat
  number : Nat
  /-- When it ends, if it does. -/
  ends : Option Nat
  exit : Exit
deriving DecidableEq

/-- How many commands are run in a row at most. -/
def fullPatience : Nat := 200000

/-- The state of a shell and of everything around it. -/
structure State where
  bindings : List (String × Variable) := []
  /-- What the shell calls itself. -/
  name : String := "sh"
  arguments : List String := []
  functions : List (String × Command) := []
  /-- The letters of the options that are set. -/
  options : List Char := []
  status : Nat := 0
  /-- The status from before what is done about a signal or at the end, while that is done. -/
  outerStatus : Option Nat := none
  /-- The status of the last command whose output was wanted. -/
  innerStatus : Option Nat := none
  /-- The time that has passed, in nanoseconds. -/
  clock : Nat := 0
  /-- The number of the process in which commands are run. -/
  self : Nat := 1000
  /-- The number of the process that the shell takes itself for. -/
  process : Nat := 1000
  /-- The number of the process that has started this one. -/
  parent : Nat := 999
  jobs : List Job := []
  /-- What is done about signals, and at the end, which has number zero. -/
  traps : List (Nat × String) := []
  /-- Where the descriptors lead. -/
  streams : List (Nat × Stream) := [(0, .nowhere), (1, .sink 1), (2, .sink 2)]
  /-- What has been written, the latest first. -/
  written : List Writing := []
  /-- The texts that are being read. -/
  sources : List (Nat × List Char) := []
  files : FileTree := {}
  /-- The signals that have not arrived. -/
  sent : List Delivery := []
  /-- The next number of a process, a sink or a source. -/
  next : Nat := 1001
  documents : List (Nat × Word) := []
  nextDocument : Nat := 0
  /-- The line of the script that is run. -/
  line : Nat := 1
  /-- The command of the shell itself that is being performed, if there is one; its messages name
  it. -/
  speaker : Option String := none
  /-- How many characters of an argument have been looked at as options. -/
  optionOffset : Nat := 0
  /-- How many loops are around the command. -/
  loops : Nat := 0
  /-- How many functions and scripts are around the command. -/
  depth : Nat := 0
  /-- The variables of the functions around the command, as they were before. -/
  locals : List (List (String × Option Variable)) := []
  /-- How many commands may still be run before the next signal arrives. Long words and copies of
  the shell count for more than one. -/
  patience : Nat := fullPatience

/-- Why commands are not gone on with. -/
inductive Interrupt
  | exit (how : Exit)
  /-- So many loops are left, or the last of them goes on with its next round. -/
  | loop (again : Bool) (levels : Nat)
  /-- A function is left. -/
  | return
  /-- Something has gone wrong. -/
  | fault
  /-- Nothing happens any more. -/
  | stuck
deriving DecidableEq

/-- Something that a shell does, which may end it. -/
abbrev Doing (α : Type) := ExceptT Interrupt (StateM State) α

/-- The longest that a shell is looked at, in nanoseconds. -/
def horizon : Nat := 100 * 86400 * 1000000000

namespace State

/-- The variable with a name. -/
def binding? (s : State) (name : String) : Option Variable :=
  (s.bindings.find? (·.1 == name)).map (·.2)

/-- The value of a variable. -/
def variableValue? (s : State) (name : String) : Option String :=
  (s.binding? name).bind (·.value)

/-- The value of a variable that separates words. -/
def separators (s : State) : List Char :=
  match s.variableValue? "IFS" with
  | some text => text.toList
  | none => [' ', '\t', '\n']

/-- What stands between arguments that are joined. -/
def joint (s : State) : List Char :=
  match s.variableValue? "IFS" with
  | some text => text.toList.take 1
  | none => [' ']

/-- Whether anything is done about a signal or at the end. -/
def hasTraps (s : State) : Bool := s.traps.any fun t => !t.2.isEmpty

/-- Whether an option is set. -/
def isSet (s : State) (option : Char) : Bool := s.options.contains option

/-- The options that are set, as a shell lists them. -/
def optionLetters : List Char :=
  ['u', 'b', 'a', 'C', 'E', 'V', 'v', 'x', 's', 'n', 'm', 'i', 'I', 'f', 'e']

/-- The process that was started in the background last. -/
def latest? (s : State) : Option Nat := (s.jobs.getLast?).map (·.process)

/-- The value of a parameter, if it has one. -/
def value? (s : State) (name : String) : Option String :=
  match name with
  | "?" => some (toString s.status)
  | "#" => some (toString s.arguments.length)
  | "$" => some (toString s.process)
  | "!" => s.latest?.map toString
  | "-" => some (String.ofList (optionLetters.filter s.isSet))
  | "0" => some s.name
  | "LINENO" => some (toString s.line)
  | _ =>
    match Text.decimal? name.toList with
    | some 0 => some s.name
    | some i => s.arguments[i - 1]?
    | none => s.variableValue? name

/-- A variable is put in its place. -/
def putVariable (s : State) (name : String) (v : Variable) : State :=
  { s with bindings :=
      if (s.binding? name).isSome then
        s.bindings.map fun (n, old) => (n, if n == name then v else old)
      else s.bindings ++ [(name, v)] }

/-- A variable is forgotten. -/
def dropVariable (s : State) (name : String) : State :=
  { s with bindings := s.bindings.filter (·.1 != name) }

/-- The variables of which programs are told. -/
def environment (s : State) : List (String × String) :=
  s.bindings.filterMap fun (name, v) => if v.exported then v.value.map (name, ·) else none

/-- Where a descriptor leads, if it is open. -/
def stream? (s : State) (descriptor : Nat) : Option Stream :=
  (s.streams.find? (·.1 == descriptor)).map (·.2)

/-- A descriptor leads somewhere else from now on, or nowhere at all. -/
def direct (s : State) (descriptor : Nat) (stream : Option Stream) : State :=
  let others := s.streams.filter (·.1 != descriptor)
  { s with streams := match stream with
      | some stream => (descriptor, stream) :: others
      | none => others }

/-- What was written to a sink, in order. -/
def collected (s : State) (sink : Nat) : String :=
  let texts := (s.written.filter (·.sink == sink)).reverse
  String.join ((texts.mergeSort fun a b => a.time ≤ b.time).map (·.text))

/-- What a sink has collected is taken away. -/
def discard (s : State) (sink : Nat) : State :=
  { s with written := s.written.filter (·.sink != sink) }

/-- A source with a text, and its number. -/
def addSource (s : State) (text : List Char) : Nat × State :=
  (s.next, { s with sources := (s.next, text) :: s.sources, next := s.next + 1 })

/-- What is left of a source. -/
def remaining (s : State) (source : Nat) : List Char :=
  ((s.sources.find? (·.1 == source)).map (·.2)).getD []

/-- A source has been read on. -/
def leave (s : State) (source : Nat) (rest : List Char) : State :=
  { s with sources := (source, rest) :: s.sources.filter (·.1 != source) }

/-- How many commands one more command counts for: more if there is much to be looked through. -/
def burden (s : State) : Nat :=
  1 + (s.bindings.length + s.functions.length + s.files.files.length + s.jobs.length +
    s.sources.length + s.documents.length) / 64 + s.written.length / 1024

/-- A source is not needed any more. -/
def dropSource (s : State) (source : Nat) : State :=
  { s with sources := s.sources.filter (·.1 != source) }

/-- The first signal that has been sent to this process and has arrived. -/
def arrived? (s : State) : Option Delivery :=
  s.sent.find? fun d => d.target == s.self && d.time ≤ s.clock

/-- What is done about a signal. -/
def trap? (s : State) (signal : Nat) : Option String :=
  (s.traps.find? (·.1 == signal)).map (·.2)

/-- Whether a signal ends this process. -/
def isDeadly (s : State) (signal : Nat) : Bool :=
  !Signal.isHarmless signal && !Signal.isStopping signal &&
    ((s.trap? signal).isNone || !Signal.isCatchable signal)

/-- How a process ends that does nothing any more, and when: by the first deadly signal. -/
def rescue? (s : State) : Option (Exit × Nat) :=
  (s.sent.find? fun d => d.target == s.self && s.isDeadly d.signal).map fun d =>
    (.signal d.signal, max s.clock d.time)

end State

/-- A text is written to a descriptor, unless that is closed. -/
def emit (descriptor : Nat) (text : String) : Doing Bool :=
  modifyGet fun s =>
    match s.stream? descriptor with
    | some (.sink sink) =>
      (true, if text.isEmpty then s else { s with written := ⟨s.clock, sink, text⟩ :: s.written })
    | some (.file place) =>
      match s.files.node? place with
      | some (.file content) =>
        (true, { s with
          files := s.files.put place (content ++ Text.utf8 text)
          patience := s.patience - content.length / 512 })
      | _ => (true, s)
    | some .nowhere => (true, s)
    | _ => (false, s)

/-- A message about something that went wrong. -/
def complain (message : String) : Doing Unit := do
  let s ← get
  let place := s.name ++ ": " ++ toString s.line ++ ": " ++
    (s.speaker.map fun name => name ++ ": ").getD ""
  let _ ← emit 2 (place ++ message ++ "\n")

/-- Something has gone wrong with which no script goes on. -/
def abort {α : Type} (message : String) : Doing α := do
  complain message
  throw .fault

/-- It is said of a process that a signal has ended it. -/
def announce (how : Exit) : Doing Unit := do
  match how with
  | .signal n =>
    match Signal.description? n with
    | some text =>
      let _ ← emit 2 (text ++ "\n")
    | none => return
  | .status _ => return

/-- Everything that is left to be read from a descriptor; nothing if it is closed. -/
def readAll (descriptor : Nat) : Doing (Option (List Char)) :=
  modifyGet fun s =>
    match s.stream? descriptor with
    | some (.source n) => (some (s.remaining n), s.leave n [])
    | some .nowhere => (some [], s)
    | _ => (none, s)

/-- The next line to be read from a descriptor, and whether it has an end. -/
def readLine (descriptor : Nat) : Doing (List Char × Bool) :=
  modifyGet fun s =>
    match s.stream? descriptor with
    | some (.source n) =>
      let text := s.remaining n
      let line := text.takeWhile (· != '\n')
      let rest := text.drop line.length
      ((line, !rest.isEmpty), s.leave n (rest.drop 1))
    | _ => (([], false), s)

/-- A variable gets a value. -/
def setVariable (name value : String) : Doing Unit := do
  let v := ((← get).binding? name).getD {}
  if v.fixed then abort (name ++ ": is read only")
  else
    let exported := v.exported || (← get).isSet 'a'
    modify fun s => s.putVariable name { v with value := some value, exported }

/-- The reason for which a file cannot be opened. -/
def openingReason (e : SystemError) (missing : String) : String :=
  if e = .notFound || e = .notDirectory then missing else e.reason

/-- The descriptor for which a path stands. -/
def standardDescriptor? (path : String) : Option Nat :=
  match path with
  | "/dev/stdin" => some 0
  | "/dev/stdout" => some 1
  | "/dev/stderr" => some 2
  | _ =>
    match path.toList.drop 8 with
    | digits => if path.startsWith "/dev/fd/" then Text.decimal? digits else none

/-- Opens the file at a path, or says why that cannot be done. -/
def openFile (opening : Opening) (path : String) : Doing (Except String Stream) := do
  let s ← get
  let reading := "cannot open " ++ path ++ ": "
  let writing := "cannot create " ++ path ++ ": "
  match standardDescriptor? path with
  | some n =>
    match s.stream? n with
    | some stream => return .ok stream
    | none => return .error ((if opening = .read then reading else writing) ++ "No such file")
  | none =>
    if path == "/dev/null" then return .ok .nowhere
    else if path == "/dev/full" then return .ok .broken
    else
      match opening with
      | .read =>
        match s.files.read path with
        | .ok content =>
          let (n, s) := s.addSource ((Text.ofUtf8? content).getD "").toList
          set s
          return .ok (.source n)
        | .error e =>
          if e = .isDirectory then return .ok .broken
          else return .error (reading ++ openingReason e "No such file")
      | _ =>
        let refusal (e : SystemError) : String :=
          writing ++ openingReason e "Directory nonexistent"
        match s.files.target (FileTree.endsInSlash path) (FileTree.names path) with
        | .error e => return .error (refusal e)
        | .ok place =>
          if path.isEmpty then return .error (refusal .notFound)
          else if !s.files.mayChange place then return .error (refusal .permissionDenied)
          else if opening = .write && s.isSet 'C' && (s.files.node? place).isSome then
            return .error (refusal .alreadyExists)
          else
            let before := match s.files.node? place with
              | some (.file content) =>
                if opening = .write || opening = .overwrite then [] else content
              | _ => []
            set { s with files := s.files.put place before }
            return .ok (.file place)

/-- What a signal does to a process in the background. Such processes do not notice an interrupt
from the keyboard. -/
def Job.receive (now signal : Nat) (j : Job) : Job :=
  if j.ends.any (· ≤ now) || Signal.isHarmless signal || signal == 2 || signal == 3 then j
  else if Signal.isStopping signal then { j with ends := none }
  else { j with ends := some now, exit := .signal signal }

/-- A signal is sent to a process; `false` if there is no such process. -/
def send (target signal : Nat) : Doing Bool :=
  modifyGet fun s =>
    if s.jobs.any (·.process == target) then
      (true, { s with jobs := s.jobs.map fun j =>
        if j.process == target then j.receive s.clock signal else j })
    else if 1000 ≤ target && target < s.next then
      (true, if signal == 0 then s else { s with sent := s.sent ++ [⟨s.clock, target, signal⟩] })
    else (false, s)

/-- Time passes. -/
def pass (nanos : Nat) : Doing Unit := do
  let s ← get
  if horizon < s.clock + nanos then throw .stuck
  else set { s with clock := s.clock + nanos }

end ControlPlane.Shell
