import ControlPlane.Shell.Condition
import ControlPlane.Shell.Tools.Basic

/-!
# Programs for files

## Main definitions

- `facts`, `testTool`: what conditions ask about files.
- `touchTool`, `rmTool`, `mkdirTool`, `copyTool`, `teeTool`: programs that change files.
- `lsTool`: a program that lists files.
- `basenameTool`, `dirnameTool`: programs that take paths apart.
-/

namespace ControlPlane.Shell

/-- The answers to questions about files. -/
def facts (s : State) : Condition.Facts where
  file letter path :=
    let isNull := path == "/dev/null"
    if letter == 'h' || letter == 'L' then false
    else if isNull then ['c', 'e', 'r', 'w'].contains letter
    else
      match s.files.look path with
      | .error _ => false
      | .ok node =>
        let isDirectory := node == .directory
        let isProgram := FileTree.programPlaces.contains (FileTree.names path).dropLast
        match letter with
        | 'e' => true
        | 'r' => true
        | 'd' => isDirectory
        | 'f' => !isDirectory
        | 's' => isDirectory || isProgram || node != .file []
        | 'w' => (s.files.locate path).toOption.any s.files.mayChange
        | 'x' => isDirectory || isProgram
        | 'O' => (s.files.locate path).toOption.any s.files.mayChange
        | 'G' => (s.files.locate path).toOption.any s.files.mayChange
        | 'k' => path == "/tmp"
        | _ => false

/-- A condition is looked at, by a program of the given name, which may want a bracket at its
end. -/
def testTool (name : String) (report : String → Doing Unit) : Tool := fun arguments => do
  if name == "[" && arguments.getLast? != some "]" then
    report "missing ]"
    return 2
  else
    match Condition.evaluate (facts (← get)) (if name == "[" then arguments.dropLast else arguments)
      with
    | .ok holds => return if holds then 0 else 1
    | .error e =>
      report e.message
      return 2

/-- Files are created, if they are not there. -/
def touchTool : Tool := fun arguments => do
  let (_, paths) := options ['d', 't', 'r'] arguments
  let done ← paths.mapM fun path => do
    match ← openFile .append path with
    | .ok _ => return true
    | .error _ =>
      if ((← get).files.look path).isOk then return true
      else
        gripe "touch" ("cannot touch '" ++ path ++ "': No such file or directory")
        return false
  return if paths.isEmpty || !done.all id then 1 else 0

/-- Files and directories are taken away. -/
def rmTool (name : String) (onlyEmpty : Bool) : Tool := fun arguments => do
  let (found, paths) := options [] arguments
  let whole := hasOption found 'r' || hasOption found 'R'
  let done ← paths.mapM fun path => do
    let s ← get
    let refuse (reason : String) : Doing Bool := do
      gripe name
        ((if onlyEmpty then "failed to remove '" else "cannot remove '") ++ path ++ "': " ++ reason)
      return false
    match s.files.locate path with
    | .error e => if hasOption found 'f' then return true else refuse e.reason
    | .ok place =>
      let inside (p : List String) : Bool := place.isPrefixOf p
      let shrunk : FileTree :=
        { s.files with
          files := s.files.files.filter fun f => !inside f.1
          directories := s.files.directories.filter fun d => !inside d }
      match s.files.node? place with
      | none => if hasOption found 'f' then return true else refuse "No such file or directory"
      | some node =>
        if !s.files.mayChange place then refuse "Permission denied"
        else if node == .directory && !whole && !onlyEmpty then refuse "Is a directory"
        else if node != .directory && onlyEmpty then refuse "Not a directory"
        else if onlyEmpty && ((s.files.files.any fun f => inside f.1) ||
            s.files.directories.any fun d => inside d && d != place) then
          refuse "Directory not empty"
        else
          modify fun s => { s with files := shrunk }
          return true
  return if (paths.isEmpty && !hasOption found 'f') || !done.all id then 1 else 0

/-- Directories are made. -/
def mkdirTool : Tool := fun arguments => do
  let (found, paths) := options ['m'] arguments
  let done ← paths.mapM fun (path : String) => do
    let s ← get
    let made := if hasOption found 'p' then s.files.makeDirectories path
      else s.files.makeDirectory (FileTree.names path)
    match made with
    | .ok files =>
      set { s with files := files }
      return true
    | .error e =>
      gripe "mkdir" ("cannot create directory '" ++ path ++ "': " ++ e.reason)
      return false
  return if paths.isEmpty || !done.all id then 1 else 0

/-- A file is copied or moved. -/
def copyTool (name : String) (move : Bool) : Tool := fun arguments => do
  let (_, paths) := options [] arguments
  match paths with
  | [source, goal] =>
    match (← get).files.read source with
    | .error e =>
      gripe name ("cannot stat '" ++ source ++ "': " ++ e.reason)
      return 1
    | .ok content =>
      let goal := if (← get).files.isDirectory (FileTree.names goal) then
        (Path.join goal ((FileTree.names source).getLastD "")).text else goal
      match ← openFile .write goal with
      | .error _ =>
        gripe name ("cannot create regular file '" ++ goal ++ "': No such file or directory")
        return 1
      | .ok stream =>
        match stream with
        | .file place => modify fun s => { s with files := s.files.put place content }
        | _ => pure ()
        if move then rmTool name false [source] else return 0
  | _ =>
    gripe name "missing file operand"
    return 1

/-- Files and directories are listed. -/
def lsTool : Tool := fun arguments => do
  let (found, paths) := options [] arguments
  let done ← (if paths.isEmpty then ["."] else paths).mapM fun (path : String) => do
    let s ← get
    match s.files.look path with
    | .error e =>
      gripe "ls" ("cannot access '" ++ path ++ "': " ++ e.reason)
      return false
    | .ok .directory =>
      let place := (s.files.locate path).toOption.getD []
      emitLines (((if hasOption found 'd' then [path]
        else [".", ".."] ++ s.files.entries place).filter fun n =>
        hasOption found 'a' || !n.startsWith ".").map (·.toList))
      return true
    | .ok _ =>
      emitLines [path.toList]
      return true
  return if done.all id then 0 else 2

/-- The input is written, also to files. -/
def teeTool : Tool := fun arguments => do
  let (found, paths) := options [] arguments
  let text := String.ofList ((← readAll 0).getD [])
  let _ ← emit 1 text
  let done ← paths.mapM fun path => do
    match ← openFile (if hasOption found 'a' then .append else .write) path with
    | .ok (.file place) =>
      modify fun s =>
        match s.files.node? place with
        | some (.file content) => { s with files := s.files.put place (content ++ Text.utf8 text) }
        | _ => s
      return true
    | .ok _ => return true
    | .error _ =>
      gripe "tee" (path ++ ": No such file or directory")
      return false
  return if done.all id then 0 else 1

/-- The last name in a path, without an ending. -/
def basenameTool : Tool := fun arguments => do
  match arguments with
  | [] =>
    gripe "basename" "missing operand"
    return 1
  | path :: rest =>
    let names := (Text.split '/' path.toList).filter (!·.isEmpty)
    let name := (names.getLast?.map String.ofList).getD (if path.isEmpty then "" else "/")
    let ending := rest.headD ""
    let name := if name.endsWith ending && name != ending then
      String.ofList (name.toList.take (name.length - ending.length)) else name
    emitLines [name.toList]
    return 0

/-- The directory of a path. -/
def dirnameTool : Tool := fun arguments => do
  match arguments with
  | [] =>
    gripe "dirname" "missing operand"
    return 1
  | paths =>
    emitLines (paths.map fun (path : String) =>
      let directory := match Path.parent? path with
        | some above => above.text
        | none => if Path.isAbsolute path then "/" else "."
      (if directory.isEmpty then "." else directory).toList)
    return 0

end ControlPlane.Shell
