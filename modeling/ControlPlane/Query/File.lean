import ControlPlane.Json.Record
import ControlPlane.Query.Basic
import ControlPlane.SystemError

/-!
# Query files

A query file is a JSON list of logical queries. Each is an object with a name, operators and
optional levels, or the array of these three.

## Main definitions

- `LogicalQuery.read`: one query at the front of a JSON text.
- `QueryFile.parse`: the queries of a text.
- `QueryFile.load`: the queries of a file that was looked up.
-/

namespace ControlPlane

/-- The fields of a logical query that have been read. -/
structure LogicalQuery.Partial where
  name : Option String := none
  operators : Option (List String) := none
  levels : Option (List UInt8) := none

namespace LogicalQuery

open Json (Reader readText readUnsigned readList readRecord)

/-- The fields of a logical query, in their order. Levels may be left out. -/
def fields : List (Json.Field LogicalQuery.Partial) :=
  [{ key := "name", optional := false, filled := (·.name.isSome)
     read := fun p input =>
       (readText input).map fun (s, rest) => ({ p with name := some s }, rest) },
   { key := "operators", optional := false, filled := (·.operators.isSome)
     read := fun p input =>
       (readList readText input).map fun (l, rest) => ({ p with operators := some l }, rest) },
   { key := "refinement_levels", optional := true, filled := (·.levels.isSome)
     read := fun p input =>
       (readList (readUnsigned 8) input).map fun (l, rest) =>
         ({ p with levels := some (l.map UInt8.ofNat) }, rest) }]

/-- A logical query at the front of a text. -/
def read : Reader LogicalQuery := fun input =>
  (readRecord "struct LogicalQuery" fields {} input).map fun (p, rest) =>
    ({ name := p.name.getD "", operators := p.operators.getD [], levels := p.levels.getD [] }, rest)

end LogicalQuery

/-- Why a query file gives no queries. -/
inductive QueryFileError
  /-- The file could not be read. -/
  | read (path : String) (source : SystemError)
  /-- The text is no list of queries. -/
  | parse (path : String) (source : Json.Fault)
deriving DecidableEq

/-- The text of an error. -/
def QueryFileError.message : QueryFileError → String
  | .read path e => "Failed to read query file " ++ path ++ ": " ++ e.message
  | .parse path e => "Failed to parse query file " ++ path ++ ": " ++ e.message

namespace QueryFile

/-- The queries of a text. -/
def parse (text : String) : Except Json.Fault (List LogicalQuery) :=
  Json.ofText (Json.readList LogicalQuery.read) (Text.utf8 text)

/-- The queries of the file at `path`, of which `content` is what looking it up gave. -/
def load (path : String) (content : Except SystemError (List UInt8)) :
    Except QueryFileError (List LogicalQuery) :=
  match content with
  | .error e => .error (.read path e)
  | .ok octets =>
    match Text.ofUtf8? octets with
    | none => .error (.read path .invalidText)
    | some text =>
      match parse text with
      | .error e => .error (.parse path e)
      | .ok queries => .ok queries

end QueryFile

end ControlPlane
