import Reaching.Command.Run
import Reaching.Settings.YamlData
/-!
The command line program. It looks up what stands on the routes of the paths that a command line
names, has the command line carried out on that, and then prints and writes what came out.
-/
set_option autoImplicit false

namespace Reaching

open Files (Entry Place Workspace)

def pathOf (place : Place) : String :=
  "/" ++ "/".intercalate place

/-- Looks up what stands at a place; code 21 tells of a directory. -/
def entryAt (place : Place) : IO (Option Entry) := do
  try
    return some (.file (← IO.FS.readBinFile (pathOf place)).toList)
  catch
    | .inappropriateType _ 21 _ => return some .directory
    | _ => return none

def pathsOf : Command.Task → List String
  | .version => []
  | .tokens input | .parse input _ => input.file :: input.config.toList
  | .solve input options => input.file :: input.config.toList ++ outputPaths options.output
where
  outputPaths : Command.Destination → List String
    | .file path => [path]
    | _ => []

def workspaceFor (paths : List String) : IO Workspace := do
  let here := Files.Path.parts (← IO.currentDir).toString
  let bare : Workspace := ⟨here, []⟩
  let places := (paths.flatMap bare.route).eraseDups
  let entries ← places.filterMapM fun place => do
    return (← entryAt place).map (place, ·)
  return ⟨here, entries⟩

/-- Says that a configuration file is not well formed; where it breaks is not told. -/
def wording (path : String) (_ : List UInt8) : String :=
  path ++ ": not well formed"

end Reaching

open Reaching in
def main (arguments : List String) : IO UInt32 := do
  let reader := Settings.YamlData.reader wording
  let paths := match Command.Request.ofArguments? arguments with
    | .ok request => pathsOf request.task
    | .error _ => []
  match Command.perform reader (← workspaceFor paths) arguments with
  | .error failure =>
    (← IO.getStderr).putStrLn failure.message
    return 1
  | .ok outcome =>
    if let some (place, content) := outcome.written then
      IO.FS.writeFile (pathOf place) content
    (← IO.getStdout).putStr outcome.stdout
    (← IO.getStderr).putStr outcome.stderr
    return outcome.exit.toUInt32
