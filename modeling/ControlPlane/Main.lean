import ControlPlane.Cli.Program
import ControlPlane.FileTree.Machine

/-!
# The command line

The program reads the files that its arguments name, works out what it leaves behind, and writes
that. It opens no connections, so a run finds no manager.
-/

namespace ControlPlane.Cli

/-- The paths at which a command looks for files. -/
def Command.paths (s : Surroundings) : Command → List Path
  | .run config queries _ => [s.configPath config, queries]
  | .compile queries _ _ => [queries]
  | .showConfig config => [s.configPath config]
  | .initConfig config _ => [s.configPath config]
  | .configPath => [s.configPath none]
  | .version => []
  | .help _ => []

/-- The files at the given paths, as far as they can be read, seen from the current directory. -/
def readFiles (paths : List Path) : IO FileTree := do
  let found : List (Path × List UInt8) ← paths.filterMapM fun path => do
    try
      let content ← IO.FS.readBinFile ⟨path.text⟩
      return some (path, content.toList)
    catch _ => return none
  let here ← IO.currentDir
  return (FileTree.ofFiles found (FileTree.names here.toString)).furnished

/-- Writes the files that are new or have changed. -/
def writeFiles (before after : FileTree) : IO Unit := do
  for (place, content) in after.files do
    if before.mayChange place && before.node? place ≠ some (.file content) then
      let directory := FileTree.path place.dropLast
      if !directory.isEmpty then IO.FS.createDirAll ⟨directory⟩
      IO.FS.writeBinFile ⟨FileTree.path place⟩ ⟨content.toArray⟩

end ControlPlane.Cli

open ControlPlane Cli in
/-- Runs the program. -/
def main (arguments : List String) : IO UInt32 := do
  let home := (← IO.getEnv "HOME").map Path.ofText
  let surroundings : Surroundings := { home, network := .isolated }
  let paths := ((Command.parse? arguments).map (·.paths surroundings)).getD []
  let before ← readFiles paths
  let outcome := respond surroundings before arguments
  writeFiles before outcome.files
  IO.print outcome.output
  IO.eprint outcome.errors
  return UInt32.ofNat outcome.exit
