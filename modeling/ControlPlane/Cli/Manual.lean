import ControlPlane.Text.Numeral

/-!
# The manual of the program

The options of each command, and the page that is written about it when help is asked for. A page
says what the command does, how it is called, and what its parts are, in columns.

## Main definitions

- `Parameter`: an option of a command.
- `Topic`: what there is a page about.
- `Topic.parameters`, `Topic.parts`: what a page lists.
- `Topic.page`: the page.
-/

namespace ControlPlane.Cli

/-- What the value of an option has to be. -/
inductive ValueKind
  /-- A path, which is not empty. -/
  | path
  /-- A number of 64 bits. -/
  | count
deriving DecidableEq

/-- Whether a text is a value of the kind. -/
def ValueKind.accepts : ValueKind → String → Bool
  | .path, value => !value.isEmpty
  | .count, value => (Text.unsigned? UInt64.size value.toList).isSome

/-- An option of a command. -/
structure Parameter where
  name : String
  /-- What its value has to be, if it takes one. -/
  value : Option ValueKind := none
  required : Bool := false
  about : String
deriving DecidableEq

namespace Parameter

/-- The option as it is written in front of an argument. -/
def flag (p : Parameter) : String := "--" ++ p.name

/-- The option and its value as they are shown in a manual. -/
def shape (p : Parameter) : String :=
  match p.value with
  | none => p.flag
  | some _ => p.flag ++ " <" ++ p.name.map Char.toUpper ++ ">"

end Parameter

/-- What there is a page about. -/
inductive Topic
  | program
  | run
  | compile
  | config
  | showConfig
  | initConfig
  | configPath
  /-- The command that shows the pages about commands of the program. -/
  | help
  /-- The command that shows the pages about commands on the configuration. -/
  | configHelp
deriving DecidableEq

/-- What the command that shows pages does. -/
def helpAbout : String := "Print this message or the help of the given subcommand(s)"

/-- Where the configuration is looked for without its option. -/
def standardPlace : String := "(defaults to ~/.sonata/config.ini)"

namespace Topic

/-- How the command is called. -/
def call : Topic → String
  | .program => "sonata"
  | .run => "sonata run"
  | .compile => "sonata compile"
  | .config => "sonata config"
  | .showConfig => "sonata config show"
  | .initConfig => "sonata config init"
  | .configPath => "sonata config path"
  | .help => "sonata help"
  | .configHelp => "sonata config help"

/-- What the command does. -/
def about : Topic → String
  | .program => "Compile monitoring queries and drive the data-plane control plane"
  | .run => "Start the workers and push the compiled queries to them"
  | .compile => "Compile a query file and print the data-plane and stream-plane queries"
  | .config => "Configuration management"
  | .showConfig => "Print the effective configuration"
  | .initConfig => "Write a configuration file with default settings"
  | .configPath => "Show the configuration file path"
  | .help => helpAbout
  | .configHelp => helpAbout

/-- The options of a command, apart from those that ask for help or for the version. -/
def parameters : Topic → List Parameter
  | .run =>
    [{ name := "config", value := some .path, about := "Configuration file " ++ standardPlace },
     { name := "queries", value := some .path, required := true
       about := "JSON file holding the logical queries" },
     { name := "loopback"
       about := "Use in-process loopback managers instead of spawning processes" }]
  | .compile =>
    [{ name := "queries", value := some .path, required := true
       about := "JSON file holding the logical queries" },
     { name := "candidates", value := some .count
       about := "Partition plan candidates per refined query" },
     { name := "json", about := "Print the compiled queries as JSON" }]
  | .showConfig =>
    [{ name := "config", value := some .path, about := "Configuration file " ++ standardPlace }]
  | .initConfig =>
    [{ name := "config", value := some .path, about := "Where to write it " ++ standardPlace },
     { name := "force", about := "Overwrite an existing file" }]
  | _ => []

/-- The commands that a command leads to. -/
def parts : Topic → List (String × Topic)
  | .program => [("run", .run), ("compile", .compile), ("config", .config), ("help", .help)]
  | .config =>
    [("show", .showConfig), ("init", .initConfig), ("path", .configPath), ("help", .configHelp)]
  | _ => []

/-- The command of the given name that a command leads to. -/
def part? (t : Topic) (name : String) : Option Topic := (t.parts.find? (·.1 == name)).map (·.2)

/-- The topic that the names of commands lead to, one after another. -/
def descend (t : Topic) (names : List String) : Option Topic := names.foldlM part? t

/-- Rows of two columns, the first one as wide as its longest text. -/
def rows (entries : List (String × String)) : String :=
  let width := entries.foldl (fun n e => max n e.1.length) 0
  String.join (entries.map fun (left, right) =>
    "  " ++ left ++ String.ofList (List.replicate (width - left.length) ' ') ++ "  " ++ right ++
      "\n")

/-- What follows the call of a command in its first line. -/
def usage (t : Topic) : String :=
  if t = .help ∨ t = .configHelp then " [COMMAND]..."
  else if t.parts.isEmpty then
    (if t.parameters.any (!·.required) then " [OPTIONS]" else "") ++
      String.join ((t.parameters.filter (·.required)).map fun p => " " ++ p.shape)
  else " <COMMAND>"

/-- The rows about options. -/
def optionRows (t : Topic) : String :=
  rows (t.parameters.map (fun p => ("    " ++ p.shape, p.about)) ++
    [("-h, --help", "Print help")] ++
    if t = .program then [("-V, --version", "Print version")] else [])

/-- The page about a topic. -/
def page (t : Topic) : String :=
  let lists :=
    if t = .help ∨ t = .configHelp then
      "Arguments:\n" ++ rows [("[COMMAND]...", "Print help for the subcommand(s)")]
    else
      (if t.parts.isEmpty then ""
        else "Commands:\n" ++ rows (t.parts.map fun (name, t) => (name, t.about)) ++ "\n") ++
      "Options:\n" ++ t.optionRows
  t.about ++ "\n\nUsage: " ++ t.call ++ t.usage ++ "\n\n" ++ lists

end Topic

end ControlPlane.Cli
