import ControlPlane.Text.Lossy
import ControlPlane.Text.Split

/-!
# Paths

A path is a list of octets whose components are separated by slashes. It need not be the form of any
text.

## Main definitions

- `Path.ofText`, `Path.text`: the path that a text spells, and the text that a path shows as.
- `Path.join`: a path from another one.
- `Path.parent?`: the directory in which a path ends.
- `Path.parts`: the components of a path, as they count when paths are compared.
- `Path.expandHome`: a path that may begin at the home directory.
-/

namespace ControlPlane

/-- A path, as the system knows it. -/
structure Path where
  octets : List UInt8
deriving DecidableEq

namespace Path

/-- The path that a text spells. -/
def ofText (text : String) : Path := ⟨Text.utf8 text⟩

instance : Coe String Path := ⟨ofText⟩

/-- The text that a path shows as. -/
def text (path : Path) : String := Text.lossy path.octets

/-- What separates the names in a path. -/
def slash : UInt8 := 0x2F

/-- Whether a path begins at the root. -/
def isAbsolute (path : Path) : Bool := path.octets.head? == some slash

/-- The path `next` from the directory `base`. An absolute path leads away from there. -/
def join (base next : Path) : Path :=
  if next.isAbsolute then next
  else if base.octets.isEmpty || base.octets.getLast? == some slash then
    ⟨base.octets ++ next.octets⟩
  else ⟨base.octets ++ slash :: next.octets⟩

/-- A path, reversed, without the slashes at its end and without the names there that stand for the
directory itself. A `.` that begins the path is kept. -/
def dropEnd : List UInt8 → List UInt8
  | 0x2F :: rest => dropEnd rest
  | 0x2E :: 0x2F :: rest => dropEnd rest
  | rest => rest

/-- The path of the directory in which the last name of a path stands; nothing for a path without
names. -/
def parent? (path : Path) : Option Path :=
  match dropEnd path.octets.reverse with
  | [] => none
  | trimmed =>
    let above := dropEnd (trimmed.dropWhile (· != slash))
    if above.isEmpty && path.isAbsolute then some ⟨[slash]⟩ else some ⟨above.reverse⟩

/-- The names in a path, without empty ones and without those that stand for the directory itself. A
leading `.` is kept, as it tells a relative path. -/
def names (path : Path) : List (List UInt8) :=
  let all := Text.split slash path.octets
  match all with
  | [0x2E] :: rest => [0x2E] :: rest.filter fun n => !n.isEmpty && n != [0x2E]
  | _ => all.filter fun n => !n.isEmpty && n != [0x2E]

/-- The components of a path: whether it begins at the root, and its names. Repeated and trailing
slashes do not show in them. -/
def parts (path : Path) : Bool × List (List UInt8) := (path.isAbsolute, path.names)

/-- Whether two paths have the same components. -/
def same (p q : Path) : Bool := p.parts == q.parts

/-- The path that a text spells, which may begin at the home directory. Where none is known, the
text is taken as it is. -/
def expandHome (home : Option Path) (text : String) : Path :=
  match home, text.toList with
  | some home, '~' :: '/' :: rest => home.join (ofText (String.ofList rest))
  | _, _ => ofText text

end Path

end ControlPlane
