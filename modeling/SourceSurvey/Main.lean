import SourceSurvey.CommandLine.Basic
import SourceSurvey.Tree.Edit

/-!
# The program

Takes a snapshot of the files that a survey can see, runs the command line on it, prints the result
and gives the exit code.  The package manager is not run from here, so audits say that it is
missing.
-/

namespace SourceSurvey.Program

/-- The place of an absolute path. -/
def placeOf (path : String) : Place := Tree.flatten (Route.ofText path).names

/-- The path of a place. -/
def pathOf (place : Place) : String := (Tree.routeOf place).text

/-- Adds what is at a place to a tree, with everything below it and everything that links lead to,
unless it is there already.  What cannot be read is left out. -/
partial def load (top : Node) (place : Place) : IO Node := do
  if (top.at? place).isSome then return top
  let real ← IO.FS.realPath (pathOf place)
  let target := placeOf real.toString
  if target != place then load (Tree.put top place (.link real.toString)) target
  else
    match ← (IO.FS.readBinFile (pathOf place)).toBaseIO with
    | .ok data => return Tree.put top place (.file data)
    | .error _ =>
      match ← (real.readDir).toBaseIO with
      | .error _ => return top
      | .ok entries =>
        let mut tree := Tree.put top place (.directory [])
        for entry in entries do
          tree ← load tree (place ++ [entry.fileName])
        return tree

/-- The environment variables that settings can come from, and the home directory. -/
def environment : IO (List (String × String)) := do
  let names := "HOME" :: Settings.variableKinds.map fun (setting, _) =>
    Settings.variableName setting
  let values ← names.mapM fun name => return (name, ← IO.getEnv name)
  return values.filterMap fun (name, value) => value.map ((name, ·))

/-- The current time in seconds, taken from a file that has just been made. -/
def now : IO Int := do
  let (_, path) ← IO.FS.createTempFile
  let time := (← path.metadata).modified.sec
  IO.FS.removeFile path
  return time

/-- The width of the display. -/
def width : IO Nat := do return ((← IO.getEnv "COLUMNS").bind String.toNat?).getD 80

/-- The places that a run with the given arguments can look at, the project first. -/
def places (here : Place) (environment : List (String × String)) (arguments : List String) :
    List Place :=
  let given := (CommandLine.read arguments).toOption.getD []
  let absolute (path : String) : Place :=
    let route := Route.ofText path
    Tree.flatten ((if route.root = "" then here else []) ++ route.names)
  let project := ((CommandLine.value? given .path).map absolute).getD here
  let config := (CommandLine.value? given .config).toList.map absolute
  let home := (environment.lookup "HOME").toList.map fun h => placeOf h ++ [".code-insight.toml"]
  project :: config ++ home ++ [here ++ ["code-insight.toml"]]

/-- The world as it is now, as far as a run with the given arguments can look. -/
def observe (arguments : List String) : IO World := do
  let here := placeOf (← IO.currentDir).toString
  let environment ← environment
  let mut top := Node.directory []
  for place in places here environment arguments do
    match ← (load top place).toBaseIO with
    | .ok tree => top := tree
    | .error _ => pure ()
  if (top.at? here).isNone then top := Tree.put top here (.directory [])
  return {
    top := top
    here := here
    environment := environment
    tool := fun _ => .missing
    clock := .int (← now)
    accessDenied := false
    width := ← width }

end SourceSurvey.Program

open SourceSurvey in
/-- Runs the command line. -/
def main (arguments : List String) : IO UInt32 := do
  let w ← Program.observe arguments
  match (CommandLine.run w arguments).outcome with
  | .ok finish =>
    IO.print finish.output
    return finish.code.toUInt32
  | .error f =>
    IO.eprintln f.message
    return 1
