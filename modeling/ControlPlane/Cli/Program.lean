import ControlPlane.Cli.Command
import ControlPlane.Cli.Error
import ControlPlane.Config.File
import ControlPlane.FileTree
import ControlPlane.Network
import ControlPlane.Rehearsal.Commands
import ControlPlane.Rehearsal.Orchestra
import ControlPlane.Worker.Loopback

/-!
# The program

The program reads its arguments, looks at files, writes some, and runs or rehearses the control
plane.

## Main definitions

- `Surroundings`: where the program runs.
- `Outcome`: what the program leaves behind.
- `perform`: the program, for a command.
- `respond`: the program, for arguments.
-/

namespace ControlPlane.Cli

/-- Where the program runs. -/
structure Surroundings where
  /-- The home directory, if it is known. -/
  home : Option Path
  network : Network
deriving DecidableEq

/-- What the program leaves behind. -/
structure Outcome where
  exit : Nat
  output : String
  errors : String
  files : FileTree
deriving DecidableEq

/-- A command has succeeded. -/
def Outcome.success (output : String) (files : FileTree) : Outcome := ⟨0, output, "", files⟩

/-- A command has failed. -/
def Outcome.failure (e : Error) (files : FileTree) : Outcome := ⟨1, "", e.report, files⟩

/-- The name and the version of the program. -/
def versionText : String := "sonata 0.1.0\n"

/-- What is written about arguments that name no command. -/
def usageText : String := "Usage: " ++ Topic.program.call ++ Topic.program.usage ++ "\n"

/-- The settings of the file at a path; without a file the standard ones hold. -/
def loadSettings (home : Option Path) (path : Path) (files : FileTree) : Except Error Settings :=
  (Settings.load home (if files.exists path then some (files.read path) else none)).mapError .config

/-- The queries of the file at a path. -/
def loadQueries (path : String) (files : FileTree) : Except Error (List LogicalQuery) :=
  (QueryFile.load path (files.read path)).mapError .queries

/-- The settings are written to the file at a path, in a directory that is made if need be. -/
def saveSettings (s : Settings) (path : Path) (files : FileTree) :
    Except ConfigError FileTree :=
  let made : Except SystemError FileTree := match path.parent? with
    | none => .ok files
    | some directory => files.makeDirectories directory
  match made with
  | .error e => .error (.directory e)
  | .ok files => (files.write path (Text.utf8 s.toIni)).mapError fun e => .write e.message

/-- The text of a number, with blanks before it up to a width of four. -/
def paddedText (n : Nat) : String :=
  let text := toString n
  String.ofList (List.replicate (4 - text.length) ' ') ++ text

/-- The lines about the compiled halves for one plane. -/
def planeText (title : String) (queries : List CompiledQuery) : String :=
  title ++ " (" ++ toString queries.length ++ " queries)\n" ++
    String.join (queries.map fun q => "  " ++ paddedText q.id.toNat ++ "  " ++ q.expr ++ "\n")

/-- Compiled halves as a value with sorted keys. -/
def sortedJson (queries : List CompiledQuery) : Json :=
  .array (queries.map fun q => .object [("expr", .string q.expr), ("qid", .ofNat q.id.toNat)])

/-- The text of what a pass has compiled. -/
def passText (json : Bool) (pass : Pass) : String :=
  if json then
    (Text.ofUtf8? (Json.pretty (.object
      [("dp_queries", sortedJson pass.data),
       ("sp_queries", sortedJson pass.stream)]))).getD "" ++ "\n"
  else planeText "Data plane" pass.data ++ "\n" ++ planeText "Stream plane" pass.stream

/-- Compiles a query file. -/
def compile (queries : String) (candidates : Option Nat) (json : Bool) (files : FileTree) :
    Except Error String := do
  let queries ← loadQueries queries files
  match Pipeline.fresh.run .reference (candidates.getD defaultCandidates) queries with
  | (.error e, _) => .error (.compilation e)
  | (.ok pass, _) => return passText json pass

/-- What the environment of a process has besides the settings of its worker. -/
def environment (s : Surroundings) : List (String × String) :=
  s.home.toList.map fun home => ("HOME", home.text)

/-- The worker that a rehearsal has for a process. -/
def rehearsed (s : Surroundings) (files : FileTree) (w : ProcessWorker) : Rehearsal.Actor where
  kind := w.kind
  label := w.kind.name
  script := [.process
    { worker := w
      fate := { Rehearsal.Fate.ofCommand w.settings (environment s) files with
        accepts := w.settings.endpoint.any fun e => s.network.connect e = .done } }]

/-- The stand-in for the fabric manager. -/
def fabricStandIn (plan : Plan) : StandIn :=
  { kind := .fabricManager, address := plan.fabricEndpoint }

/-- The stand-in for the streaming manager. -/
def streamingStandIn (plan : Plan) : StandIn :=
  { kind := .streamingManager, address := plan.streamingEndpoint }

/-- The managers' stand-ins and the sockets that they take, if both addresses can be bound. -/
def standIns (network : Network) (plan : Plan) :
    Except WorkerError (List Rehearsal.Actor × List Socket) :=
  [fabricStandIn plan, streamingStandIn plan].foldlM
    (fun (actors, taken) standIn => do
      let socket ← standIn.bind (network.bind taken standIn.address)
      let actor : Rehearsal.Actor :=
        { kind := standIn.kind, label := standIn.kind.name, script := [.ready, .untilCancelled] }
      return (actors ++ [actor], taken ++ [socket]))
    ([], [])

/-- The workers of a run and the sockets that they take: stand-ins for the managers, or those that
are configured. -/
def workers (s : Surroundings) (settings : Settings) (loopback : Bool) (files : FileTree) :
    Except Error (List Rehearsal.Actor × List Socket) :=
  if loopback then
    (standIns s.network (.ofSettings settings)).mapError fun e => .orchestration (.worker e)
  else .ok (settings.workers.map (rehearsed s files), [])

/-- What a rehearsal of a run is given, where `taken` are the sockets of its workers. -/
def score (network : Network) (taken : List Socket) (plan : Plan) : Rehearsal.Score Wires where
  plan := plan
  links := Wires.links ⟨plan.fabricEndpoint, plan.connectTimeout, plan.sendLimit⟩
    ⟨plan.streamingEndpoint, plan.connectTimeout, plan.sendLimit⟩ plan.retry
  socket := (network.bind taken plan.outputAddress).map fun _ => ()

/-- A control plane before it is run. -/
def orchestra (network : Network) (plan : Plan) : Rehearsal.Orchestra Wires where
  beyond :=
    { fabric := { later := { connect := network.connect plan.fabricEndpoint } }
      streaming := { later := { connect := network.connect plan.streamingEndpoint } } }

/-- The path of the configuration file: the one that is named, or the usual one. -/
def Surroundings.configPath (s : Surroundings) (named : Option String) : Path :=
  (named.map Path.ofText).getD (Settings.path s.home)

/-- What has to be there before a run can begin: the settings, an empty log file, the queries, and
the workers. -/
def prepare (s : Surroundings) (config : Option String) (queries : String) (loopback : Bool)
    (files : FileTree) :
    Except Error (Settings × List LogicalQuery × List Rehearsal.Actor × List Socket) × FileTree :=
  match loadSettings s.home (s.configPath config) files with
  | .error e => (.error e, files)
  | .ok settings =>
    match files.prepareLog settings.logDirectory settings.logFile with
    | .error e => (.error (.log e), files)
    | .ok (_, files) =>
      let ready := do
        let queries ← loadQueries queries files
        return (settings, queries, ← workers s settings loopback files)
      (ready, files)

/-- What is left behind by a run that is over: also what the processes of the workers have written,
and the files that they have changed. -/
def Outcome.ofRun (o : Rehearsal.Orchestra Wires) (files : FileTree) : Outcome :=
  let outcome : Outcome := match o.plane.run.bind (·.outcome?) with
    | some (.error e) => .failure (.orchestration e) files
    | _ => .success "" files
  let written (isError : Bool) : String :=
    String.join ((o.troupe.remarks.filter (·.isError == isError)).map (·.text))
  { outcome with
    output := written false ++ outcome.output
    errors := written true ++ outcome.errors
    files := (o.troupe.actors.filterMap (·.files)).getLast?.getD files }

/-- Somebody interrupts the program, unless the run is over, and the run comes to its end. -/
def interrupt (score : Rehearsal.Score Wires) (o : Rehearsal.Orchestra Wires) :
    Rehearsal.Orchestra Wires :=
  ((if o.finished then o else o.request).await score (·.finished)).2

/-- Runs the control plane. A run that does not stop by itself is interrupted in the end. -/
def run (s : Surroundings) (config : Option String) (queries : String) (loopback : Bool)
    (files : FileTree) : Outcome :=
  match prepare s config queries loopback files with
  | (.error e, files) => .failure e files
  | (.ok (settings, queries, actors, taken), files) =>
    let plan := .ofSettings settings
    let score := score s.network taken plan
    let (_, o) := ((orchestra s.network plan).begin queries actors).await score (·.finished)
    .ofRun (interrupt score o) files

/-- What can be seen of a run while producers connect to it. -/
structure Session where
  outcome : Outcome
  /-- Which of the producers were connected. -/
  connected : List Bool := []
  /-- The frames that the fabric manager has received. -/
  fabric : List (List UInt8) := []
  /-- The frames that the streaming manager has received. -/
  streaming : List (List UInt8) := []

/-- Producers connect, one after another, if connections can be opened at all. -/
def connectAll (s : Surroundings) (score : Rehearsal.Score Wires) :
    List Transmission → Rehearsal.Orchestra Wires → List Bool × Rehearsal.Orchestra Wires
  | [], o => ([], o)
  | t :: rest, o =>
    let (connected, o) := if s.network = .open then o.connect score t else (false, o)
    let (others, o) := connectAll s score rest o
    (connected :: others, o)

/-- Runs the control plane, lets producers connect when the initial configuration is sent, and
interrupts it then; nothing if that does not come within `patience`, in nanoseconds. -/
def attend (s : Surroundings) (config : Option String) (queries : String) (loopback : Bool)
    (files : FileTree) (patience : Nat) (producers : List Transmission) : Option Session :=
  match prepare s config queries loopback files with
  | (.error e, files) =>
    some { outcome := .failure e files, connected := producers.map fun _ => false }
  | (.ok (settings, queries, actors, taken), files) =>
    let plan := .ofSettings settings
    let score := score s.network taken plan
    let (_, o) := ((orchestra s.network plan).begin queries actors).await score fun o =>
      o.settled || patience < o.plane.now
    if o.settled then
      let (connected, o) := connectAll s score producers o
      let o := interrupt score o
      some { outcome := .ofRun o files, connected
             fabric := o.beyond.fabric.received, streaming := o.beyond.streaming.received }
    else none

/-- The program, for a command. -/
def perform (s : Surroundings) (files : FileTree) : Command → Outcome
  | .run config queries loopback => run s config queries loopback files
  | .compile queries candidates json =>
    match compile queries candidates json files with
    | .error e => .failure e files
    | .ok text => .success text files
  | .showConfig config =>
    let path := s.configPath config
    match loadSettings s.home path files with
    | .error e => .failure e files
    | .ok settings =>
      .success ((if files.exists path then "" else
        "# " ++ path.text ++ " not found, showing defaults\n") ++ settings.toIni) files
  | .initConfig config force =>
    let path := s.configPath config
    if files.exists path && !force then .failure (.configExists path) files
    else
      match saveSettings (.standard s.home) path files with
      | .error e => .failure (.config e) files
      | .ok files => .success ("Wrote default configuration to " ++ path.text ++ "\n") files
  | .configPath =>
    let path := s.configPath none
    .success (path.text ++ "\n" ++ (if files.exists path then "" else
      "(file does not exist, defaults are in use)\n")) files
  | .version => .success versionText files
  | .help topic => .success topic.page files

/-- The program, for arguments. -/
def respond (s : Surroundings) (files : FileTree) (arguments : List String) : Outcome :=
  match Command.parse? arguments with
  | some command => perform s files command
  | none => ⟨2, "", usageText, files⟩

end ControlPlane.Cli
