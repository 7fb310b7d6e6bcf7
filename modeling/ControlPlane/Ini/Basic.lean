/-!
# Configuration documents

A document is a sequence of named sections, each with its keys and values. Names may be repeated;
looking one up finds its first occurrence.

## Main definitions

- `Ini.Section`, `Ini.Document`.
- `Ini.Document.section?`, `Ini.Section.get?`: looking up.
- `Ini.Line`, `Ini.render`: documents with comments, written line by line.
-/

namespace ControlPlane.Ini

/-- A section: its name, unless it stands before all headers, and its entries. -/
structure Section where
  name : Option String
  entries : List (String × String)
deriving DecidableEq

/-- A document: its sections in order. -/
abbrev Document := List Section

/-- The value of the first entry with the given key. -/
def Section.get? (s : Section) (key : String) : Option String :=
  (s.entries.find? (·.1 == key)).map (·.2)

/-- The first section with the given name. -/
def Document.section? (d : Document) (name : String) : Option Section :=
  List.find? (fun s => s.name == some name) d

/-- The document with one more section. -/
def Document.openSection (d : Document) (name : String) : Document :=
  List.append d [⟨some name, []⟩]

/-- The document with one more entry in its last section. Before all headers there is a section
without a name. -/
def Document.add : Document → String → String → Document
  | [], key, value => [⟨none, [(key, value)]⟩]
  | [s], key, value => [{ s with entries := s.entries ++ [(key, value)] }]
  | s :: rest, key, value => s :: Document.add rest key value

/-- One line of a written document. -/
inductive Line
  | header (name : String)
  | comment (text : String)
  | entry (key value : String)
  | blank
deriving DecidableEq

/-- The text of a line, without its end. -/
def Line.text : Line → String
  | .header name => "[" ++ name ++ "]"
  | .comment text => "; " ++ text
  | .entry key value => key ++ " = " ++ value
  | .blank => ""

/-- The text of a document. -/
def render (lines : List Line) : String :=
  String.join (lines.map fun l => l.text ++ "\n")

end ControlPlane.Ini
