import GridSetup.Command.Run

/-!
# The program

Reads the files that the arguments name, runs the command on them and prints what it gives.
-/

namespace GridSetup.Command

/-- What stands at a path of the file system, if anything does. -/
def lookAt (path : String) : IO (Option FileNode) := do
  try
    return some (.file (.ofBytes (← IO.FS.readBinFile path)))
  catch
    | .inappropriateType .. => return some .directory
    | _ => return none

/-- The part of the file system that a request may read. -/
def readFiles (request : Request) : IO (List (String × FileNode)) :=
  request.paths.filterMapM fun path => do
    return (← lookAt path).map fun node => (path, node)

end GridSetup.Command

/-- Runs the command that the arguments ask for. -/
def main (arguments : List String) : IO UInt32 := do
  let nodes ← match GridSetup.Command.Request.ofArguments arguments with
    | some request => GridSetup.Command.readFiles request
    | none => pure []
  let outcome := GridSetup.Command.run (fun path => nodes.lookup path) arguments
  IO.print outcome.output
  IO.eprint outcome.errorOutput
  return UInt32.ofNat outcome.code
