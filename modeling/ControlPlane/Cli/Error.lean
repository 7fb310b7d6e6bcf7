import ControlPlane.Config.Reading
import ControlPlane.Orchestration.Error
import ControlPlane.Path
import ControlPlane.Query.File

/-!
# Errors of the program

## Main definitions

- `Cli.Error`: why the program has failed.
- `Cli.Error.report`: what is written about it.
-/

namespace ControlPlane.Cli

/-- Why the program has failed. -/
inductive Error
  | log (source : SystemError)
  | config (source : ConfigError)
  | queries (source : QueryFileError)
  | compilation (source : PipelineError)
  | orchestration (source : OrchestrationError)
  /-- A configuration file is not overwritten unless that is asked for. -/
  | configExists (path : Path)
deriving DecidableEq

namespace Error

/-- The text of an error. -/
def message : Error → String
  | .log source => "Failed to initialize logging: " ++ source.message
  | .config source => "Configuration error: " ++ source.message
  | .queries source => source.message
  | .compilation source =>
    "Compilation failed (" ++ source.stage.name ++ " stage): " ++ source.message
  | .orchestration source =>
    "Runtime failed (" ++ source.stage ++ " stage): " ++ source.message
  | .configExists path => "Configuration file already exists: " ++ path.text

/-- What may help, for errors that come from a wrong set-up. -/
def hint : Error → String
  | .orchestration source =>
    if source.stage == "bootstrap" then
      "\nCommon issues:\n" ++
      "  1. Manager command missing: set `command` in [fm_conf] and [sm_conf]\n" ++
      "  2. Socket in use: check fm_socket, sm_socket and op_socket in [runtime]\n" ++
      "  3. Slow manager start: raise readiness_timeout_secs in [bootstrap]\n"
    else ""
  | .config _ => "\nRun 'sonata config path' to locate the configuration file.\n"
  | _ => ""

/-- What is written about an error. -/
def report (e : Error) : String := "Error: " ++ e.message ++ "\n" ++ e.hint

end Error

end ControlPlane.Cli
