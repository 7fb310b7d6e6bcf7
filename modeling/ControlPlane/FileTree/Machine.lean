import ControlPlane.FileTree

/-!
# What every machine has

The directories and files that are there on every machine, whatever else is.

## Main definitions

- `FileTree.furnished`: a tree that stands on a machine.
- `FileTree.machine`: a machine with an empty directory, in which the program stands.
-/

namespace ControlPlane.FileTree

/-- The directories that are there everywhere. -/
def commonDirectories : List (List String) :=
  [["/", "bin"], ["/", "dev"], ["/", "dev", "shm"], ["/", "etc"], ["/", "home"], ["/", "lib"],
   ["/", "mnt"], ["/", "opt"], ["/", "proc"], ["/", "root"], ["/", "run"], ["/", "sbin"],
   ["/", "srv"], ["/", "sys"], ["/", "tmp"], ["/", "usr"], ["/", "usr", "bin"], ["/", "usr", "lib"],
   ["/", "usr", "local"], ["/", "usr", "local", "bin"], ["/", "usr", "sbin"], ["/", "usr", "share"],
   ["/", "var"], ["/", "var", "lib"], ["/", "var", "log"], ["/", "var", "tmp"]]

/-- The files that are there everywhere, other than programs. Nothing is given to the program to
read, and of the others an empty line stands for what is in them. -/
def commonFiles : List (List String × List UInt8) :=
  (sink, []) :: (["/", "dev", "stdin"], []) ::
    ([["/", "etc", "passwd"], ["/", "etc", "group"], ["/", "etc", "hosts"],
      ["/", "etc", "hostname"], ["/", "etc", "os-release"], ["/", "dev", "zero"],
      ["/", "dev", "urandom"]].map fun place => (place, [10]))

/-- The directories in which programs are. -/
def programPlaces : List (List String) := [["/", "bin"], ["/", "usr", "bin"]]

/-- The programs that are there everywhere; an octet of no text stands for what is in them. -/
def commonPrograms : List (List String × List UInt8) :=
  programPlaces.flatMap fun place =>
    (["sh", "env", "cat", "echo", "false", "grep", "kill", "ls", "sleep", "test", "true"]).map
      fun name => (place ++ [name], [255])

/-- A tree with everything that is there everywhere, on a machine of somebody else. -/
def furnished (t : FileTree) : FileTree :=
  { t with
    files := t.files ++ commonFiles ++ commonPrograms
    directories := t.directories ++ commonDirectories
    guarded := true }

/-- A machine on which the program stands in an empty directory. -/
def machine : FileTree := furnished {}

end ControlPlane.FileTree
