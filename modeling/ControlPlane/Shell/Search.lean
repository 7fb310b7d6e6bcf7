import ControlPlane.Shell.Pattern

/-!
# Searching lines

What a line is searched for is a row of atoms, each of which may be repeated, or one of several such
rows. A row may be bound to the start or to the end of the line. As in patterns, a character of
several octets counts as several.

## Main definitions

- `Search.Row`: a row of atoms.
- `Search.read`: the rows of a text.
- `Search.finds`: whether one of several rows is found in a line.
-/

namespace ControlPlane.Shell.Search

/-- How often an atom may stand in a row. -/
inductive Times
  | once
  | perhaps
  | anyNumber
  | atLeastOnce
deriving DecidableEq

/-- A row of atoms. -/
structure Row where
  atStart : Bool := false
  atoms : List (Pattern.Atom × Times) := []
  atEnd : Bool := false
deriving DecidableEq

/-- How often the atom in front of a text may stand, and what follows that. `extended` says that
more signs than the star have a meaning without a backslash. -/
def readTimes (extended : Bool) : List Char → Times × List Char
  | '*' :: rest => (.anyNumber, rest)
  | '+' :: rest => if extended then (.atLeastOnce, rest) else (.once, '+' :: rest)
  | '?' :: rest => if extended then (.perhaps, rest) else (.once, '?' :: rest)
  | '\\' :: '+' :: rest => if extended then (.once, '\\' :: '+' :: rest) else (.atLeastOnce, rest)
  | '\\' :: '?' :: rest => if extended then (.once, '\\' :: '?' :: rest) else (.perhaps, rest)
  | rest => (.once, rest)

/-- The rest of a row of which some atoms have been read, reversed; at most `fuel` atoms follow. -/
def readRow (extended : Bool) : (fuel : Nat) → Row → List Char → Row
  | 0, row, _ => { row with atoms := row.atoms.reverse }
  | _, row, [] => { row with atoms := row.atoms.reverse }
  | _, row, ['$'] => { row with atoms := row.atoms.reverse, atEnd := true }
  | fuel + 1, row, c :: rest =>
    let (atom, rest) : Pattern.Atom × List Char :=
      if c == '.' then (.any, rest)
      else if c == '[' then
        (Pattern.readSet '^' (rest.map (false, ·))).elim (.char c, rest) fun (atom, after) =>
          (atom, after.map (·.2))
      else if c == '\\' then (.char (rest.headD '\\'), rest.drop 1)
      else (.char c, rest)
    let (times, rest) := readTimes extended rest
    readRow extended fuel { row with atoms := (atom, times) :: row.atoms } rest

/-- The parts of a text between bars; `done` is what has been read of the first part, reversed. -/
def alternatives (done : List Char) : List Char → List (List Char)
  | [] => [done.reverse]
  | '\\' :: c :: rest => alternatives (c :: '\\' :: done) rest
  | '|' :: rest => done.reverse :: alternatives [] rest
  | c :: rest => alternatives (c :: done) rest

/-- The rows that a text says. -/
def read (extended : Bool) (text : List Char) : List Row :=
  let text := Pattern.octets text
  (if extended then alternatives [] text else [text]).map fun part =>
    match part with
    | '^' :: rest => readRow extended rest.length { atStart := true } rest
    | _ => readRow extended part.length {} part

/-- The row that stands for a text as it is. -/
def literal (text : List Char) : Row :=
  { atoms := (Pattern.octets text).map fun c => (.char c, .once) }

/-- Whether a text begins as some atoms say. -/
def fits (atEnd : Bool) : List (Pattern.Atom × Times) → List Char → Bool
  | [], cs => cs.isEmpty || !atEnd
  | (atom, times) :: rest, cs =>
    let first := cs.head?.any atom.fits
    match times with
    | .once => first && fits atEnd rest (cs.drop 1)
    | .perhaps => fits atEnd rest cs || (first && fits atEnd rest (cs.drop 1))
    | .anyNumber =>
      let run := (cs.takeWhile atom.fits).length
      (List.range (run + 1)).any fun n => fits atEnd rest (cs.drop n)
    | .atLeastOnce =>
      let run := (cs.takeWhile atom.fits).length
      (List.range run).any fun n => fits atEnd rest (cs.drop (n + 1))

/-- Whether a row is found in the octets of a line. -/
def Row.isIn (line : List Char) (row : Row) : Bool :=
  if row.atStart then fits row.atEnd row.atoms line
  else Pattern.anySuffix (fits row.atEnd row.atoms) line

/-- Whether one of several rows is found in a line. -/
def finds (rows : List Row) (line : List Char) : Bool := rows.any (·.isIn (Pattern.octets line))

end ControlPlane.Shell.Search
