import ControlPlane.Cli.Manual

/-!
# Commands of the program

Arguments are read from left to right. The first one that cannot be understood makes all of them
meaningless, and the first one that asks for help or for the version is answered at once.

## Main definitions

- `Command`: what the program can be asked to do.
- `Command.parse?`: the command that arguments name, if they name one.
-/

namespace ControlPlane.Cli

/-- What the program can be asked to do. -/
inductive Command
  /-- Runs the control plane. -/
  | run (config : Option String) (queries : String) (loopback : Bool)
  /-- Compiles a query file. -/
  | compile (queries : String) (candidates : Option Nat) (json : Bool)
  | showConfig (config : Option String)
  /-- Writes a configuration file. -/
  | initConfig (config : Option String) (force : Bool)
  | configPath
  | version
  /-- Shows a page of the manual. -/
  | help (topic : Topic)
deriving DecidableEq

/-- What was given of the options, with the values of those that take one. -/
structure Given where
  values : List (String × String) := []
  flags : List String := []
deriving DecidableEq

namespace Given

/-- The value of an option, if it was given. -/
def value? (g : Given) (name : String) : Option String :=
  (g.values.find? (·.1 == name)).map (·.2)

/-- Whether an option without a value was given. -/
def has (g : Given) (name : String) : Bool := g.flags.contains name

/-- The options with one more value. An option may be given once. -/
def addValue? (g : Given) (p : Parameter) (kind : ValueKind) (value : String) : Option Given :=
  if (g.value? p.name).isSome || !kind.accepts value then none
  else some { g with values := g.values ++ [(p.name, value)] }

/-- The options with one more that takes no value. -/
def addFlag? (g : Given) (p : Parameter) : Option Given :=
  if g.has p.name then none else some { g with flags := g.flags ++ [p.name] }

end Given

/-- What the arguments of a command are: a question for help, or options. -/
inductive Reading
  | help
  | given (options : Given)
deriving DecidableEq

/-- Whether an argument can be the value of the option before it. One that begins with a hyphen
cannot, except the hyphen itself. -/
def isValue (argument : String) : Bool :=
  argument == "-" || argument.toList.head? != some '-'

/-- Whether an argument is a hyphen with letters of which the first one is the given one. -/
def isShort (letter : Char) (argument : String) : Bool :=
  argument.toList.take 2 == ['-', letter]

/-- Whether an argument asks for help. -/
def asksHelp (argument : String) : Bool := argument == "--help" || isShort 'h' argument

/-- Whether an argument asks for the version. -/
def asksVersion (argument : String) : Bool := argument == "--version" || isShort 'V' argument

/-- The name and the value of an argument such as `--name=value`. -/
def split? (argument : String) : Option (String × String) :=
  let cs := argument.toList
  match cs.dropWhile (· != '=') with
  | [] => none
  | _ :: value => some (String.ofList (cs.takeWhile (· != '=')), String.ofList value)

/-- The options that some arguments give, if they can be understood. -/
def readOptions? (ps : List Parameter) : List String → Given → Option Reading
  | [], g => some (.given g)
  | argument :: rest, g =>
    let find? (flag : String) : Option Parameter := ps.find? (·.flag == flag)
    if asksHelp argument then some .help
    else if argument == "--" then if rest.isEmpty then some (.given g) else none
    else
      match find? argument with
      | some p =>
        match p.value, rest with
        | none, rest => do readOptions? ps rest (← g.addFlag? p)
        | some _, [] => none
        | some kind, value :: rest =>
          if isValue value then do readOptions? ps rest (← g.addValue? p kind value) else none
      | none => do
        let (flag, value) ← split? argument
        let p ← find? flag
        readOptions? ps rest (← g.addValue? p (← p.value) value)

namespace Command

/-- The command about a topic that takes options, for what was given of them. -/
def ofGiven? (g : Given) : Topic → Option Command
  | .run => do return .run (g.value? "config") (← g.value? "queries") (g.has "loopback")
  | .compile => do
    let candidates := (g.value? "candidates").bind fun n => Text.unsigned? UInt64.size n.toList
    return .compile (← g.value? "queries") candidates (g.has "json")
  | .showConfig => some (.showConfig (g.value? "config"))
  | .initConfig => some (.initConfig (g.value? "config") (g.has "force"))
  | .configPath => some .configPath
  | _ => none

/-- The command that the arguments after the name of a command with options name. -/
def ofOptions? (t : Topic) (arguments : List String) : Option Command :=
  match readOptions? t.parameters arguments {} with
  | none => none
  | some .help => some (.help t)
  | some (.given g) => ofGiven? g t

/-- The command on the configuration that arguments name. -/
def parseConfig? : List String → Option Command
  | [] => none
  | name :: rest =>
    if asksHelp name then some (.help .config)
    else
      match Topic.config.part? name with
      | none => none
      | some .configHelp => (Topic.config.descend rest).map .help
      | some t => ofOptions? t rest

/-- The command that arguments name, if they name one. -/
def parse? : List String → Option Command
  | [] => none
  | name :: rest =>
    if asksHelp name then some (.help .program)
    else if asksVersion name then some .version
    else
      match Topic.program.part? name with
      | none => none
      | some .config => parseConfig? rest
      | some .help => (Topic.program.descend rest).map .help
      | some t => ofOptions? t rest

end Command

end ControlPlane.Cli
