import SourceSurvey.Settings.Thresholds

/-!
# Settings

What a survey can be told: how many workers, which audits, which files, how much to say.  Like the
thresholds, settings are loosely typed and checked by comparisons.
-/

namespace SourceSurvey

/-- The settings of a survey. -/
structure Settings where
  workers : Value
  auditEnabled : Value
  auditTimeout : Value
  outdatedEnabled : Value
  outdatedTimeout : Value
  maxFileSize : Value
  maxFiles : Value
  followLinks : Value
  excludedDirs : Value
  verbosity : Value
  thresholds : Thresholds
  deriving DecidableEq

namespace Settings

/-- The directories that are not looked into when nothing is set. -/
def defaultExcluded : List String :=
  ["node_modules", ".git", "dist", "build", "out", "target", "__pycache__", ".venv", "venv", "env",
    "coverage", ".next", ".nuxt", ".vscode", ".idea"]

/-- The settings as a record; the thresholds are kept apart. -/
def shape : RecordShape :=
  ⟨"AnalysisConfig",
    [("workers", .int 4), ("audit_enabled", .bool true), ("audit_timeout_seconds", .int 30),
      ("outdated_enabled", .bool false), ("outdated_timeout_seconds", .int 60),
      ("max_file_size_mb", .float (.ofNat 10)), ("max_files", .int 10000),
      ("follow_symlinks", .bool false), ("exclude_dirs", .ofTexts defaultExcluded),
      ("verbosity", .str "normal")]⟩

/-- The settings that a filled record holds. -/
def ofFilled (fields : List (String × Value)) (thresholds : Thresholds) : Settings :=
  let get (name : String) : Value := (fields.lookup name).getD .null
  ⟨get "workers", get "audit_enabled", get "audit_timeout_seconds", get "outdated_enabled",
    get "outdated_timeout_seconds", get "max_file_size_mb", get "max_files", get "follow_symlinks",
    get "exclude_dirs", get "verbosity", thresholds⟩

/-- The settings when nothing is set. -/
def default : Settings := ofFilled shape.defaults .default

/-- The words for how much is said. -/
def verbosities : List String := ["quiet", "normal", "verbose"]

open Thresholds in
/-- Refuses settings that make no sense; the first bad one decides. -/
def check (s : Settings) : Except Misuse Unit := do
  refuseIf (s.workers.test .lt (.int 1)) "workers must be at least 1"
  refuseIf (s.auditTimeout.test .lt (.int 1)) "audit_timeout_seconds must be at least 1"
  refuseIf (s.outdatedTimeout.test .lt (.int 1)) "outdated_timeout_seconds must be at least 1"
  refuseIf (s.maxFileSize.test .le (.int 0)) "max_file_size_mb must be positive"
  refuseIf (s.maxFiles.test .lt (.int 1)) "max_files must be at least 1"
  refuseIf (return !(verbosities.any s.verbosity.isText))
    "verbosity must be quiet, normal or verbose"

/-- Checked settings from named values. -/
def ofFields (given : List (String × Value)) (thresholds : Thresholds) :
    Except Misuse Settings := do
  let s := ofFilled (← shape.fill given) thresholds
  s.check
  return s

/-- The largest size in bytes of a file that is read. -/
def maxFileBytes (s : Settings) : Except Misuse Int := do
  (← (← s.maxFileSize.times (.int 1024)).times (.int 1024)).toInteger

/-- The settings as an object. -/
def toValue (s : Settings) : Value :=
  .obj [("workers", s.workers), ("audit_enabled", s.auditEnabled),
    ("audit_timeout_seconds", s.auditTimeout), ("outdated_enabled", s.outdatedEnabled),
    ("outdated_timeout_seconds", s.outdatedTimeout), ("max_file_size_mb", s.maxFileSize),
    ("max_files", s.maxFiles), ("follow_symlinks", s.followLinks), ("exclude_dirs", s.excludedDirs),
    ("verbosity", s.verbosity), ("thresholds", s.thresholds.toValue)]

end Settings

end SourceSurvey
