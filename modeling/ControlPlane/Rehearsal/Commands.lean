import ControlPlane.Rehearsal.Process
import ControlPlane.Shell.Evaluation

/-!
# Commands of planned processes

In a rehearsal a worker's command is not executed; what would become of it is worked out, as far as
it is one of the common small programs or a shell script made of them.

## Main definitions

- `startingState`: the state in which a worker's command begins.
- `Fate.ofCommand`: what becomes of a worker's command.
-/

namespace ControlPlane.Rehearsal

open Shell

/-- The state in which a worker's command begins: with the given variables and those of the worker,
and with nothing to be read. -/
def startingState (w : WorkerSettings) (environment : List (String × String)) (files : FileTree) :
    State :=
  let all := ("PATH", usualPath) :: environment ++ w.environment
  { bindings := all.map fun (name, value) => (name, { value := some value, exported := true })
    files }

/-- How long a process takes at least, in nanoseconds. -/
def leastTime : Nat := 1000000

/-- How many commands may stand inside each other, and how many rounds a loop may have. -/
def plenty : Nat := 1000000

/-- A word of a command holds a character that no command can hold. -/
def nulInCommand : SystemError := .stream .invalidInput "nul byte found in provided data"

/-- What becomes of a command, whose process begins in state `s`. -/
def Fate.ofWords (s : State) (words : List String) : Fate :=
  let d := depart s do
    let how ← Shell.launch plenty words
    throw (.exit how)
  let after := { d.state.files with current := s.files.current }
  { exit := d.ends.map fun time => (max leastTime time, d.exit.text)
    remarks := (d.state.written.reverse.filter fun w => w.sink = 1 || w.sink = 2).map fun w =>
      ⟨w.time, w.sink == 2, w.text⟩
    files := if after = s.files then none else some after }

/-- Why there is no program of the given name. A name without a slash is not a path of its own. -/
def missingReason (files : FileTree) (program : String) : SystemError :=
  if program.toList.contains '/' then
    match files.look program with
    | .error e => e
    | .ok _ => .permissionDenied
  else if FileTree.longestName < program.utf8ByteSize then FileTree.nameTooLong
  else .notFound

/-- What becomes of a worker's command, which is told of some variables and stands among some
files. -/
def Fate.ofCommand (w : WorkerSettings) (environment : List (String × String) := [])
    (files : FileTree := .machine) : Fate :=
  match w.command with
  | none => {}
  | some program =>
    let s := startingState w environment files
    let texts := program :: w.args ++ s.environment.map (·.2)
    if texts.any (·.toList.contains (Char.ofNat 0)) then { launch := .error nulInCommand }
    else
      match s.program program with
      | .missing => { launch := .error (missingReason s.files program) }
      | .refused => { launch := .error .permissionDenied }
      | .known _ => Fate.ofWords s (program :: w.args)

end ControlPlane.Rehearsal
