/-!
# Signals

A signal has a number and a name, and does something to a process that does nothing about it.

## Main definitions

- `Signal.number?`: the number of a signal that is named.
- `Signal.name?`: the name of a signal.
- `Signal.label`: what a shell calls a signal.
- `Exit`: how a process ends.
-/

namespace ControlPlane.Shell

namespace Signal

/-- The signals that have a name. -/
def named : List (Nat × String) :=
  [(1, "HUP"), (2, "INT"), (3, "QUIT"), (4, "ILL"), (5, "TRAP"), (6, "ABRT"), (7, "BUS"),
   (8, "FPE"), (9, "KILL"), (10, "USR1"), (11, "SEGV"), (12, "USR2"), (13, "PIPE"), (14, "ALRM"),
   (15, "TERM"), (16, "STKFLT"), (17, "CHLD"), (18, "CONT"), (19, "STOP"), (20, "TSTP"),
   (21, "TTIN"), (22, "TTOU"), (23, "URG"), (24, "XCPU"), (25, "XFSZ"), (26, "VTALRM"),
   (27, "PROF"), (28, "WINCH"), (29, "IO"), (30, "PWR"), (31, "SYS"), (34, "RTMIN"), (64, "RTMAX")]

/-- What is said of a process that a signal has ended. -/
def descriptions : List (Nat × String) :=
  [(1, "Hangup"), (3, "Quit"), (4, "Illegal instruction"), (5, "Trace/breakpoint trap"),
   (6, "Aborted"), (7, "Bus error"), (8, "Floating point exception"), (9, "Killed"),
   (10, "User defined signal 1"), (11, "Segmentation fault"), (12, "User defined signal 2"),
   (14, "Alarm clock"), (15, "Terminated"), (16, "Stack fault"), (24, "CPU time limit exceeded"),
   (25, "File size limit exceeded"), (26, "Virtual timer expired"),
   (27, "Profiling timer expired"), (29, "I/O possible"), (30, "Power failure"),
   (31, "Bad system call")]

/-- What is said of a process that a signal has ended, if anything is said. -/
def description? (n : Nat) : Option String :=
  if 34 ≤ n then some ("Real-time signal " ++ toString (n - 34))
  else (descriptions.find? (·.1 == n)).map (·.2)

/-- One more than the greatest number of a signal. -/
def bound : Nat := 65

/-- The name of a signal. -/
def name? (n : Nat) : Option String := (named.find? (·.1 == n)).map (·.2)

/-- What a shell calls a signal. Signals without a name of their own are known by their number, or
by how far they are from the first or the last of those that are free for use. -/
def label (n : Nat) : String :=
  match (name? n).filter fun _ => n != 16 with
  | some name => name
  | none =>
    if n < 34 then toString n
    else if n < 50 then "RTMIN+" ++ toString (n - 34) else "RTMAX-" ++ toString (64 - n)

/-- The number of a signal that is named, whatever the case of the letters. -/
def number? (name : String) : Option Nat :=
  (List.range bound).find? fun n => 0 < n && label n == name.toUpper

/-- Whether a process goes on that does nothing about a signal. -/
def isHarmless (n : Nat) : Bool := [0, 17, 18, 23, 28].contains n

/-- Whether a process stands still that does nothing about a signal. -/
def isStopping (n : Nat) : Bool := [19, 20, 21, 22].contains n

/-- Whether a process can do something about a signal. -/
def isCatchable (n : Nat) : Bool := n != 9 && n != 19

end Signal

/-- How a process ends. -/
inductive Exit
  | status (n : Nat)
  | signal (n : Nat)
deriving DecidableEq

namespace Exit

/-- What a shell sees of the end of a process. -/
def code : Exit → Nat
  | .status n => n % 256
  | .signal n => 128 + n

/-- The text of the end of a process. -/
def text : Exit → String
  | .status n => "exit status: " ++ toString (n % 256)
  | .signal n =>
    "signal: " ++ toString n ++
      match (Signal.name? n).filter fun _ => n < 32 with
      | some name => " (SIG" ++ name ++ ")"
      | none => ""

end Exit

end ControlPlane.Shell
