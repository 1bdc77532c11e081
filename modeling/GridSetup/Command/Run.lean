import GridSetup.Command.Arguments
import GridSetup.Output.Json
import GridSetup.Output.Text
import GridSetup.Output.Yaml

/-!
# Running a command

A run maps the arguments and the files it may read to an exit code and what is printed. The
resolve command builds the defaults first, from the settings file beside the parameter file and
then the one that is asked for; only then is the parameter file read. Parameters that are set on
the command line are put in before values are tidied.
-/

namespace GridSetup

/-- The text of a parameter file. -/
def readParameterFile (files : Files) (path : String) : Except Error String :=
  match files path with
  | none => .error (.missingFile path)
  | some .directory => .error (.unreadableFile path .isDirectory)
  | some (.file .binary) => .error (.unreadableFile path .notText)
  | some (.file (.text content)) => .ok content

namespace Command

/-- What a run prints and how it ends. -/
inductive Outcome where
  | success (output : String)
  | failure (message : String)
  /-- The arguments are not understood. -/
  | usage
  deriving Repr, DecidableEq

/-- The exit code of a run. -/
def Outcome.code : Outcome → Nat
  | .success _ => 0
  | .failure _ => 1
  | .usage => 2

/-- What a run writes to standard output. -/
def Outcome.output : Outcome → String
  | .success output => output
  | _ => ""

/-- What a run writes to standard error. -/
def Outcome.errorOutput : Outcome → String
  | .success _ => ""
  | .failure message => "Error: " ++ message ++ "\n"
  | .usage => "usage: pargrid resolve PATH [-f text|json|yaml] [--defaults FILE] [--set KEY=VALUE]...\n"
      ++ "       pargrid params PATH\n"

/-- The name and version of the program. -/
def versionLine : String := "pargrid 0.1.0\n"

/-- A resolution in a format. -/
def Format.write : Format → Resolution → String
  | .text, r => PlainText.ofResolution r
  | .json, r => Json.writePretty (.ofResolution r) ++ "\n"
  | .yaml, r => Yaml.write (.ofResolution r)

/-- The layers of defaults that a request asks for. -/
def ResolveRequest.layers (request : ResolveRequest) : List Layer :=
  Layer.beside request.path ::
    match request.defaults with
    | some file => [.file file true]
    | none => []

/-- The resolution that a request asks for. -/
def ResolveRequest.run (files : Files) (request : ResolveRequest) :
    Except Error Resolution := do
  let defaults ← Defaults.ofLayers files request.layers
  let source ← readParameterFile files request.path
  let parameters ← Parameters.ofSource source
  resolve defaults (parameters.insertAll request.settings)

/-- The text that a request asks for. -/
def Request.run (files : Files) : Request → Except Error String
  | .version => .ok versionLine
  | .resolve request => (request.run files).map request.format.write
  | .params path => do
    let source ← readParameterFile files path
    return PlainText.ofParameters (← Parameters.ofSourceNormalized source)

/-- The outcome of a run with the given arguments. -/
def run (files : Files) (arguments : List String) : Outcome :=
  match Request.ofArguments arguments with
  | none => .usage
  | some request =>
    match request.run files with
    | .ok output => .success output
    | .error e => .failure e.message

/-- The paths of the files that a request may read. -/
def Request.paths : Request → List String
  | .version => []
  | .params path => [path]
  | .resolve request =>
    let settings := request.layers.filterMap fun
      | .file path _ => some path
      | .override _ _ => none
    request.path :: settings ++ settings.filterMap fun path => withExtension path "toml"

end Command

end GridSetup
