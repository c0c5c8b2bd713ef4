import SourceSurvey.Fault
import SourceSurvey.Settings.Basic
import SourceSurvey.Text.Lower

/-!
# Settings from the environment

Each single setting can come from an environment variable whose name is a fixed front and the name
of the setting in capitals.  Lists and thresholds cannot.
-/

namespace SourceSurvey

/-- What an environment variable is read as. -/
inductive VariableKind where
  | integer
  | decimal
  | flag
  | word
  | unavailable
  deriving DecidableEq

namespace VariableKind

/-- The words for yes. -/
def yes : List String := ["true", "1", "yes", "on"]

/-- The words for no. -/
def no : List String := ["false", "0", "no", "off"]

/-- Reads the value of a variable; none when such a setting cannot come from the environment. -/
def read (kind : VariableKind) (text : String) : Except Misuse (Option Value) :=
  match kind with
  | .integer => (integerOfText text).map fun i => some (.int i)
  | .decimal => (doubleOfText text).map fun x => some (.float x)
  | .flag =>
    let word := Text.lowered text
    if yes.contains word then .ok (some (.bool true))
    else if no.contains word then .ok (some (.bool false))
    else .error (.invalid s!"expected true/false, got '{text}'")
  | .word => .ok (some (.str text))
  | .unavailable => .ok none

end VariableKind

namespace Settings

/-- The settings with their kinds, in the order in which variables are read. -/
def variableKinds : List (String × VariableKind) :=
  [("workers", .integer), ("audit_enabled", .flag), ("audit_timeout_seconds", .integer),
    ("outdated_enabled", .flag), ("outdated_timeout_seconds", .integer),
    ("max_file_size_mb", .decimal), ("max_files", .integer), ("follow_symlinks", .flag),
    ("exclude_dirs", .unavailable), ("verbosity", .word), ("thresholds", .unavailable)]

/-- The name of the variable of a setting. -/
def variableName (setting : String) : String := "CODE_INSIGHT_" ++ setting.map Char.toUpper

/-- Reads the settings of an environment; the first bad one decides. -/
def ofEnvironment (environment : List (String × String)) :
    List (String × VariableKind) → Except Fault (List (String × Value))
  | [] => .ok []
  | (setting, kind) :: rest =>
    match environment.lookup (variableName setting) with
    | none => ofEnvironment environment rest
    | some text =>
      match kind.read text with
      | .error m => .error (.badSetting (.str (variableName setting)) (.str text) (.str m.message))
      | .ok none => ofEnvironment environment rest
      | .ok (some v) => (ofEnvironment environment rest).map ((setting, v) :: ·)

end Settings

end SourceSurvey
