import ControlPlane.Path
import ControlPlane.SystemError

/-!
# Trees of files

A tree of directories and files with the operations that a program has on them, and the errors that
these give. A relative path starts at the place where the program stands. The names of an absolute
path come after a name of their own, a slash. What lies above the place of a program whose own
absolute path is not known comes after names of two dots. The names in a tree are texts; the octets
of a name that no text spells stand for the text that they show as.

## Main definitions

- `FileTree`: a tree.
- `FileTree.exists`, `FileTree.read`: looking at a path.
- `FileTree.write`, `FileTree.makeDirectories`: changing a tree.
- `FileTree.prepareLog`: an empty log file.
-/

namespace ControlPlane

/-- A tree of directories and files; a place in it is the list of names that lead there. -/
structure FileTree where
  files : List (List String × List UInt8) := []
  directories : List (List String) := []
  /-- The place at which relative paths start. -/
  current : List String := []
  /-- Whether the machine belongs to somebody else, so that only some places may be changed. -/
  guarded : Bool := false
deriving DecidableEq

namespace FileTree

/-- What stands at a place. -/
inductive Node
  | file (content : List UInt8)
  | directory
deriving DecidableEq

/-- Whether a place is where the program stands, or above that. -/
def isAbove (place : List String) : Bool := place.all (· == "..")

/-- What stands at a place, if anything does. -/
def node? (t : FileTree) (place : List String) : Option Node :=
  if isAbove place ∨ place = ["/"] ∨ place ∈ t.directories then some .directory
  else (t.files.find? (·.1 = place)).map fun f => .file f.2

/-- The longest name that a file may have, in octets. -/
def longestName : Nat := 255

/-- The longest path that can be looked up, in octets. -/
def longestPath : Nat := 4095

/-- A name or a path is too long. -/
def nameTooLong : SystemError := .os 36

/-- Whether a path can be looked up at all, or the error of trying. -/
def check (path : Path) : Except SystemError Unit :=
  if path.octets.contains 0 then .error .nulInside
  else if longestPath < path.octets.length then .error nameTooLong
  else .ok ()

/-- The place one name further on, in a directory that is there. -/
def enter (place : List String) (name : String) : List String :=
  if name = "." then place
  else if name = ".." then
    if place = ["/"] then place else if isAbove place then ".." :: place else place.dropLast
  else place ++ [name]

/-- The place one name further on. -/
def descend (t : FileTree) (place : List String) (name : String) :
    Except SystemError (List String) :=
  match t.node? place with
  | none => .error .notFound
  | some (.file _) => .error .notDirectory
  | some .directory =>
    if longestName < name.utf8ByteSize then .error nameTooLong else .ok (enter place name)

/-- The place to which several names lead. Only the last of them may be the name of nothing. -/
def follow (t : FileTree) : List String → List String → Except SystemError (List String)
  | place, [] => .ok place
  | place, name :: rest =>
    match t.descend place name with
    | .error e => .error e
    | .ok place => t.follow place rest

/-- The place to which several names lead from the place where they start. -/
def walk (t : FileTree) (names : List String) : Except SystemError (List String) :=
  t.follow (if names.head? = some "/" then [] else t.current) names

/-- The names in a path, in order. An absolute path begins with a name of its own. -/
def names (path : Path) : List String :=
  let all := ((Text.split Path.slash path.octets).filter fun n => !n.isEmpty).map Text.lossy
  if path.isAbsolute then "/" :: all else all

/-- Whether a path ends in a slash, so that it can only be that of a directory. -/
def endsInSlash (path : Path) : Bool := path.octets.getLast? == some Path.slash

/-- The place of a path. -/
def locate (t : FileTree) (path : Path) : Except SystemError (List String) :=
  match check path with
  | .error e => .error e
  | .ok () => if path.octets.isEmpty then .error .notFound else t.walk (names path)

/-- What stands at a path, or the error of looking at it. -/
def look (t : FileTree) (path : Path) : Except SystemError Node :=
  match t.locate path with
  | .error e => .error e
  | .ok place =>
    match t.node? place with
    | none => .error .notFound
    | some .directory => .ok .directory
    | some (.file content) => if endsInSlash path then .error .notDirectory else .ok (.file content)

/-- Whether anything can be seen at a path. -/
def «exists» (t : FileTree) (path : Path) : Bool := (t.look path).isOk

/-- The octets of the file at a path. -/
def read (t : FileTree) (path : Path) : Except SystemError (List UInt8) :=
  match t.look path with
  | .error e => .error e
  | .ok .directory => .error .isDirectory
  | .ok (.file content) => .ok content

/-- The places below which everybody may change things. -/
def publicPlaces : List (List String) :=
  [["/", "tmp"], ["/", "var", "tmp"], ["/", "dev", "shm"]]

/-- The place of a file that stays empty, whatever is written to it. -/
def sink : List String := ["/", "dev", "null"]

/-- Whether a place is the one where the program stands, or is below that. -/
def isOwn (t : FileTree) (place : List String) : Bool :=
  t.current.isPrefixOf place &&
    !(t.current.isEmpty && (place.head? == some "/" || place.head? == some ".."))

/-- Whether what stands at a place may be changed. Nothing is known of who owns what lies above the
place where the program stands. -/
def mayChange (t : FileTree) (place : List String) : Bool :=
  !t.guarded || place.head? != some "/" || place == sink || t.isOwn place ||
    publicPlaces.any (·.isPrefixOf place)

/-- The tree with a file at a place. -/
def put (t : FileTree) (place : List String) (content : List UInt8) : FileTree :=
  if place = sink then t
  else { t with files := t.files.filter (·.1 ≠ place) ++ [(place, content)] }

/-- The place to which a file is written whose path has the given names. A path that ends in a slash
is that of a directory, whatever its last name; only the names before that are looked up. -/
def target (t : FileTree) (slash : Bool) (names : List String) :
    Except SystemError (List String) := do
  let place ← t.walk (if slash then names.dropLast else names)
  match t.node? place with
  | some .directory => .error .isDirectory
  | some (.file _) => if slash then .error .notDirectory else .ok place
  | none => if slash then .error .notFound else .ok place

/-- The tree with a file at a path; what was there before is overwritten. -/
def write (t : FileTree) (path : Path) (content : List UInt8) : Except SystemError FileTree := do
  check path
  if path.octets.isEmpty then .error .notFound
  else
    let place ← t.target (endsInSlash path) (names path)
    if t.mayChange place then return t.put place content
    else .error .permissionDenied

/-- The tree with one more directory; the names lead to it. -/
def makeDirectory (t : FileTree) (names : List String) : Except SystemError FileTree :=
  match t.walk names with
  | .error e => .error e
  | .ok place =>
    match t.node? place with
    | some _ => .error .alreadyExists
    | none =>
      if t.mayChange place then .ok { t with directories := t.directories ++ [place] }
      else .error .permissionDenied

/-- Whether names lead to a directory. -/
def isDirectory (t : FileTree) (names : List String) : Bool :=
  match t.walk names with
  | .error _ => false
  | .ok place => t.node? place = some .directory

/-- A directory, which may be there already. -/
def ensureDirectory (t : FileTree) (names : List String) : Except SystemError FileTree :=
  match t.makeDirectory names with
  | .ok t => .ok t
  | .error e => if t.isDirectory names then .ok t else .error e

/-- Names without those at the end that stand for the directory itself. -/
def trimmed (names : List String) : List String :=
  (names.reverse.dropWhile (· = ".")).reverse

theorem length_trimmed_le (names : List String) : (trimmed names).length ≤ names.length := by
  simpa [trimmed] using (List.dropWhile_sublist (· = ".") (l := names.reverse)).length_le

/-- The names that lead to the directory in which the last of some names stands. -/
def above (names : List String) : List String := trimmed (trimmed names).dropLast

theorem length_above_lt {names : List String} (h : names ≠ []) :
    (above names).length < names.length := by
  have h₁ := length_trimmed_le (trimmed names).dropLast
  have h₂ := length_trimmed_le names
  have h₃ := List.length_pos_iff.2 h
  simp only [List.length_dropLast] at h₁
  unfold above
  omega

/-- The directory to which `names` lead, with all directories on the way. Those on the way are only
made when the last one cannot be made without them. -/
def makeAll (t : FileTree) (names : List String) : Except SystemError FileTree :=
  if _h : names = [] then .ok t
  else
    match t.makeDirectory names with
    | .ok t => .ok t
    | .error e =>
      if e = .notFound then
        match t.makeAll (above names) with
        | .error e => .error e
        | .ok t => t.ensureDirectory names
      else if t.isDirectory names then .ok t
      else .error e
termination_by names.length
decreasing_by exact length_above_lt _h

/-- The directory at a path, with all directories on the way. -/
def makeDirectories (t : FileTree) (path : Path) : Except SystemError FileTree :=
  match check path with
  | .error e => .error e
  | .ok () => t.makeAll (names path)

/-- An empty log file in a directory, which is made if need be; the answer is its path. -/
def prepareLog (t : FileTree) (directory : Path) (file : String) :
    Except SystemError (Path × FileTree) :=
  match t.makeDirectories directory with
  | .error e => .error e
  | .ok t =>
    let path := directory.join file
    (t.write path []).map fun t => (path, t)

/-- The places on the way along some names, the first and the last included. -/
def stations (start : List String) (names : List String) : List (List String) :=
  names.foldl (fun way name => way ++ [enter (way.getLast?.getD []) name]) [start]

/-- The tree with the files at the given paths and the directories that they need. -/
def ofFiles (files : List (Path × List UInt8)) (current : List String := []) : FileTree :=
  let ways := files.map fun (path, content) =>
    (stations (if path.isAbsolute then [] else current) (names path), content)
  { files := ways.map fun (way, content) => (way.getLast?.getD [], content)
    directories := (stations [] current ++ ways.flatMap (·.1.dropLast)).eraseDups.filter (· ≠ [])
    current }

/-- The names of what stands in a directory, in order. -/
def entries (t : FileTree) (place : List String) : List String :=
  let names := (t.files.map (·.1) ++ t.directories).filterMap fun p =>
    if p.length = place.length + 1 && place.isPrefixOf p then p.getLast? else none
  names.eraseDups.mergeSort (· ≤ ·)

/-- The path to a place. -/
def path : List String → String
  | "/" :: rest => "/" ++ String.intercalate "/" rest
  | place => String.intercalate "/" place

/-- The files below the place where the program stands, with their paths from there, sorted by
path. -/
def listing (t : FileTree) : List (String × List UInt8) :=
  let own := t.files.filter fun f => t.isOwn f.1
  (own.map fun (place, content) => (path (place.drop t.current.length), content)).mergeSort
    fun a b => a.1 ≤ b.1

end FileTree

end ControlPlane
