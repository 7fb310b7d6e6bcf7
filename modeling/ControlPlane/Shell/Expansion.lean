import ControlPlane.Shell.State

/-!
# What words come to

When a word is used its parts are replaced by their values. What comes of that is a row of glyphs,
which still tells what was quoted; it is split into fields, and fields that are patterns are
replaced by the paths that they fit.

## Main definitions

- `Glyph`: what a part of a word comes to.
- `fieldsOf`: the fields of a row of glyphs.
- `textOf`: the text of a row of glyphs that stays one word.
- `pathsOf`: the paths that a field fits.
-/

namespace ControlPlane.Shell

/-- How a character has come into a word. -/
inductive Origin
  /-- It stands in the script. -/
  | script
  | quoted
  /-- It comes from a value; such characters may separate fields. -/
  | value
deriving DecidableEq

/-- What a part of a word comes to. -/
inductive Glyph
  | char (origin : Origin) (c : Char)
  /-- There were quotes, so there is a field even if nothing is in it. -/
  | quotes
  /-- One argument ends and another one begins. -/
  | boundary
  /-- There were no arguments, so that quotes around them make no field. -/
  | void
deriving DecidableEq

/-- The glyphs of a text. -/
def glyphs (origin : Origin) (text : String) : List Glyph := text.toList.map (.char origin)

/-- A field: its characters, each quoted or not. -/
abbrev Field := List (Bool × Char)

/-- The text of a field. -/
def Field.text (f : Field) : String := String.ofList (f.map (·.2))

/-- Glyphs of which the first ones have been split into fields. -/
structure Splitting where
  /-- The fields that have ended, the last one first. -/
  done : List Field := []
  /-- The field that has begun, if one has, reversed. -/
  current : Option Field := none
  /-- Whether a blank has ended the last field, and nothing has come since. -/
  afterBlank : Bool := false
  voided : Bool := false
deriving DecidableEq

namespace Splitting

/-- The field that has begun ends. -/
def emit (s : Splitting) : Splitting :=
  { s with
    done := match s.current with
      | some [] => if s.voided then s.done else [] :: s.done
      | some cs => cs.reverse :: s.done
      | none => s.done
    current := none
    voided := false }

/-- The next glyph; `separators` are the characters that separate fields. -/
def take (separators : List Char) (s : Splitting) : Glyph → Splitting
  | .char origin c =>
    if origin == .value && separators.contains c then
      if [' ', '\t', '\n'].contains c then
        if s.current.isSome then { s.emit with afterBlank := true } else s
      else if s.current.isSome then { s.emit with afterBlank := false }
      else if s.afterBlank then { s with afterBlank := false }
      else { s with done := [] :: s.done }
    else
      { s with current := some ((origin == .quoted, c) :: s.current.getD []), afterBlank := false }
  | .quotes => { s with current := some (s.current.getD []), afterBlank := false }
  | .boundary => { s.emit with afterBlank := false }
  | .void => { s with voided := true }

end Splitting

/-- The fields of a row of glyphs. -/
def fieldsOf (separators : List Char) (gs : List Glyph) : List Field :=
  (gs.foldl (Splitting.take separators) {}).emit.done.reverse

/-- A row of glyphs that stays one word, as a field; `joint` stands between arguments. -/
def fieldOf (joint : List Char) (gs : List Glyph) : Field :=
  gs.flatMap fun
    | .char origin c => [(origin == .quoted, c)]
    | .boundary => joint.map (true, ·)
    | _ => []

/-- The text of a row of glyphs that stays one word; `joint` stands between arguments. -/
def textOf (joint : List Char) (gs : List Glyph) : String := Field.text (fieldOf joint gs)

/-- Whether a field may be a pattern. -/
def Field.isPattern (f : Field) : Bool :=
  f.any fun (quoted, c) => !quoted && ['*', '?', '['].contains c

/-- The parts of a field between slashes. -/
def Field.parts : Field → List Field
  | [] => [[]]
  | (quoted, c) :: rest =>
    if c == '/' then [] :: parts rest
    else
      match parts rest with
      | [] => [[(quoted, c)]]
      | part :: more => ((quoted, c) :: part) :: more

/-- The paths that begin with `path`, which leads to `place`, and go on as some parts say. Hidden
names only fit parts that begin with a point. -/
def pathsFrom (files : FileTree) : List Field → String → List String → List String
  | [], path, _ => [path]
  | part :: rest, path, place =>
    let step (name : String) : List String :=
      let next := if name.isEmpty then place else FileTree.enter place name
      if rest.isEmpty then if (files.node? next).isSome then [path ++ name] else []
      else if files.node? next = some .directory then
        pathsFrom files rest (path ++ name ++ "/") next
      else []
    if part.isPattern then
      let fitting := ([".", ".."] ++ files.entries place).filter fun name =>
        Pattern.accepts (Pattern.read part) name.toList &&
          (!name.startsWith "." || (part.head?.map (·.2)) == some '.')
      fitting.flatMap step
    else step part.text

/-- The paths that a field fits, in order; the field itself if it fits none. -/
def pathsOf (files : FileTree) (f : Field) : List String :=
  if !f.isPattern then [f.text]
  else
    let found := match f.parts with
      | [] :: rest => pathsFrom files rest "/" ["/"]
      | parts => pathsFrom files parts "" files.current
    if found.isEmpty then [f.text] else found

/-- A word with the home directory in place of a tilde at its start. -/
def withHome (home : Option String) (word : Word) : Word :=
  match word with
  | .char false '~' :: rest =>
    match home, rest with
    | some home, [] => home.toList.map (.char true)
    | some home, .char false '/' :: rest => home.toList.map (.char true) ++ .char false '/' :: rest
    | _, _ => word
  | _ => word

end ControlPlane.Shell
