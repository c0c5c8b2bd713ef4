import SourceSurvey.Report.Basic
import SourceSurvey.World

/-!
# Manifests

The dependencies of a project as its manifest lists them, and the lock files that pin them.
-/

namespace SourceSurvey.Manifest

/-- The name of the manifest. -/
def fileName : String := "package.json"

/-- The names of the files that pin versions, when nothing else is said. -/
def lockFiles : List String :=
  ["package-lock.json", "yarn.lock", "pnpm-lock.yaml", "npm-shrinkwrap.json"]

/-- The parts of a manifest that hold dependencies, with the scope that they give. -/
def sections : List (String × String) := [("dependencies", "prod"), ("devDependencies", "dev")]

/-- A fault of a manifest. -/
def refuse {α : Type} (route : Route) (reason : String) : Except Failure α :=
  .error (.fault (.manifest (.str route.text) (.str reason)))

/-- A text with line ends of any form as line feeds. -/
def unifyBreaks : List Char → List Char
  | '\r' :: '\n' :: rest => '\n' :: unifyBreaks rest
  | '\r' :: rest => '\n' :: unifyBreaks rest
  | c :: rest => c :: unifyBreaks rest
  | [] => []

/-- Reads the text of a manifest. -/
def readText (w : World) (route : Route) : Except Failure String := do
  match Text.Utf8.decodeStrict (← w.readBytes route) with
  | .ok text => return String.ofList (unifyBreaks text.toList)
  | .error f => throw (.notUtf8 f)

/-- Reads a manifest as a value, with a decoder of JSON texts. -/
def readDocument (w : World) (route : Route) (decode : String → Except Failure Value := readJson) :
    Except Failure Value :=
  match readText w route with
  | .error (.unreachable .zeroInPath path) => .error (.unreachable .zeroInPath path)
  | .error f => refuse route ("Cannot read manifest: " ++ f.message)
  | .ok text =>
    match decode text with
    | .error (.notJson document what left) =>
      refuse route ("Invalid JSON: " ++ (Failure.notJson document what left).message)
    | other => other

/-- The dependencies of one part of a manifest. -/
def sectionEntries (route : Route) (fields : List (String × Value)) (part scope : String) :
    Except Failure (List DependencyEntry) :=
  let entries := (fields.lookup part).getD .null
  if !entries.truthy then .ok []
  else
    match entries with
    | .obj dependencies =>
      .ok (dependencies.map fun (name, version) =>
        ⟨.str name, .str version.text, .str scope, .null, .null⟩)
    | _ => refuse route s!"'{part}' is not an object"

/-- The dependencies that a manifest lists. -/
def read (w : World) (route : Route) (decode : String → Except Failure Value := readJson) :
    Except Failure (List DependencyEntry) := do
  match ← readDocument w route decode with
  | .obj fields =>
    return (← sections.mapM fun (part, scope) => sectionEntries route fields part scope).flatten
  | _ => refuse route "Top-level value is not an object"

/-- Whether one of the lock files is there. -/
def hasLockFile (w : World) (project : Route) : List String → Except Failure Bool
  | [] => .ok false
  | name :: rest => do
    if ← w.reaches (project.join (Route.ofText name)) then return true
    else hasLockFile w project rest

end SourceSurvey.Manifest
