import SourceSurvey.Settings.Variable
import SourceSurvey.Toml.Reader
import SourceSurvey.World

/-!
# Loading settings

Settings come from several sources, of which a later one wins field by field: the defaults, a file
in the home directory, a file in the current directory, a file given by name, the environment, and
direct overrides.  The table of thresholds counts as one field, so the last source that has one
decides all of it.
-/

namespace SourceSurvey.Settings

/-- Reads a document of settings. -/
def readDocument (w : World) (route : Route) : Except Failure Toml.Table := do
  match Text.Utf8.decodeStrict (← w.readBytes route) with
  | .error f => throw (.notUtf8 f)
  | .ok text =>
    let document := Toml.joinBreaks text.toList
    match Toml.read document with
    | .ok table => return table
    | .error (.flaw what left) => throw (.notToml document what left)
    | .error (.tooManyDigits n) => throw (.misuse (.tooManyDigits n))

/-- A failure as a fault with an explanation in front. -/
def explained {α : Type} (front : String) (x : Except Failure α) : Except Failure α :=
  match x with
  | .error f => .error (.fault (.ofText (front ++ f.message)))
  | .ok a => .ok a

/-- The settings of a file that need not be there. -/
def optionalDocument (w : World) (what : String) (route : Route) : Except Failure Toml.Table := do
  if ← w.reaches route then
    explained s!"Invalid {what} config '{route.text}': " (readDocument w route)
  else return []

/-- The settings of a file that is given by name. -/
def namedDocument (w : World) (route : Route) : Except Failure Toml.Table := do
  if ← w.reaches route then
    explained s!"Invalid config file '{route.text}': " (readDocument w route)
  else throw (.fault (.ofText s!"Config file not found: {route.text}"))

/-- Turns a switch among the overrides into a word for the verbosity. -/
def applySwitch (switch word : String) (overrides : Toml.Table) : Toml.Table :=
  match overrides.lookup switch with
  | none => overrides
  | some v =>
    (if v.truthy then Value.putField "verbosity" (.str word) overrides else overrides).filter
      fun (name, _) => name != switch

/-- The overrides of a load: named values, and thresholds that are already checked. -/
structure Overrides where
  values : Toml.Table
  thresholds : Option Thresholds

/-- The overrides when there are none. -/
def Overrides.none : Overrides := ⟨[], Option.none⟩

/-- The thresholds among merged fields: a table is checked, and anything else is passed over. -/
def mergedThresholds (overrides : Overrides) (merged : Toml.Table) : Except Failure Thresholds :=
  match overrides.thresholds with
  | some t => .ok t
  | none =>
    match merged.lookup "thresholds" with
    | some (.obj fields) =>
      explained "Invalid [thresholds] config: " (orFail (Thresholds.ofFields fields))
    | _ => .ok .default

/-- The fields of each source, of which a later one wins. -/
def sources (w : World) (file : Option Route) (overrides : Overrides) :
    Except Failure (List Toml.Table) := do
  let home ← w.home
  let global ← optionalDocument w "global" (home.child ".code-insight.toml")
  let project ← optionalDocument w "project" (w.current.child "code-insight.toml")
  let named ← match file with
    | some route => namedDocument w route
    | none => pure []
  let environment ← match ofEnvironment w.environment variableKinds with
    | .ok fields => pure fields
    | .error f => throw (.fault f)
  let direct := applySwitch "quiet" "quiet" (applySwitch "verbose" "verbose" overrides.values)
  return [global, project, named, environment, direct]

/-- The fields of all sources, the later ones winning. -/
def mergeSources (w : World) (file : Option Route) (overrides : Overrides) :
    Except Failure Toml.Table := do
  return (← sources w file overrides).foldl Value.putFields []

/-- Loads the settings of a survey. -/
def load (w : World) (file : Option Route) (overrides : Overrides) : Except Failure Settings := do
  let merged ← mergeSources w file overrides
  let thresholds ← mergedThresholds overrides merged
  let fields := merged.filter fun (name, _) => name != "thresholds"
  explained "Invalid configuration: " (orFail (ofFields fields thresholds))

end SourceSurvey.Settings
