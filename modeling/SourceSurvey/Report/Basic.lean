import SourceSurvey.Json.Reader
import SourceSurvey.Json.Writer
import SourceSurvey.Failure
import SourceSurvey.Value.Number

/-!
# Reports

The report of a survey.  Its shape is fixed, and its leaves are loosely typed values: what a
document holds in a field stays there unchanged.  Each part comes with `toValue` and `ofValue`, its
form as an object and the reading of such an object.

* complexity: `FunctionEntry`, `ComplexityEntry`;
* security: `IssueEntry`, `SecurityEntry`;
* duplication: `Location`, `FragmentEntry`, `DuplicationPart`;
* dependencies: `DependencyEntry`, `DependencyPart`;
* `Summary` and `Report`, with `Report.toJson`, `Report.dump` and `Report.ofJson`.
-/

namespace SourceSurvey

/-- Reads each member of a value. -/
def readMembers {α : Type} (read : Value → Except Misuse α)
    (v : Value) : Except Misuse (List α) := do
  (← v.members).mapM read

/-- The complexity of one function. -/
structure FunctionEntry where
  name : Value
  complexity : Value
  line : Value
  deriving DecidableEq

namespace FunctionEntry

/-- The entry as an object. -/
def toValue (e : FunctionEntry) : Value :=
  .obj [("name", e.name), ("complexity", e.complexity), ("line", e.line)]

/-- Reads an entry. -/
def ofValue (v : Value) : Except Misuse FunctionEntry := do
  return ⟨← v.field "name", ← v.field "complexity", ← v.field "line"⟩

end FunctionEntry

/-- The complexity of one file. -/
structure ComplexityEntry where
  file : Value
  average : Value
  functions : List FunctionEntry
  rating : Value
  deriving DecidableEq

namespace ComplexityEntry

/-- The entry as an object, in which the average stands under two names. -/
def toValue (e : ComplexityEntry) : Value :=
  .obj [("file", e.file), ("complexity", e.average), ("averageComplexity", e.average),
    ("functions", .list (e.functions.map FunctionEntry.toValue)), ("rating", e.rating)]

/-- Reads an entry. -/
def ofValue (v : Value) : Except Misuse ComplexityEntry := do
  let file ← v.field "file"
  let average ← v.field "averageComplexity"
  let functions ← readMembers FunctionEntry.ofValue (← v.fieldOr "functions" (.list []))
  return ⟨file, average, functions, ← v.field "rating"⟩

/-- Whether a file is rated high or very high. -/
def isHigh (e : ComplexityEntry) : Except Misuse Bool := do
  let rating ← e.rating.hashable
  return rating.isText "high" || rating.isText "very-high"

end ComplexityEntry

/-- One finding. -/
structure IssueEntry where
  category : Value
  severity : Value
  message : Value
  line : Value
  rule : Value
  deriving DecidableEq

namespace IssueEntry

/-- The entry as an object. -/
def toValue (e : IssueEntry) : Value :=
  .obj [("type", e.category), ("severity", e.severity), ("line", e.line), ("message", e.message),
    ("rule", e.rule)]

/-- Reads an entry; line and rule may be missing. -/
def ofValue (v : Value) : Except Misuse IssueEntry := do
  return ⟨← v.field "type", ← v.field "severity", ← v.field "message", ← v.fieldOr "line" .null,
    ← v.fieldOr "rule" .null⟩

end IssueEntry

/-- The findings of one file. -/
structure SecurityEntry where
  file : Value
  issues : List IssueEntry
  score : Value
  deriving DecidableEq

namespace SecurityEntry

/-- The entry as an object. -/
def toValue (e : SecurityEntry) : Value :=
  .obj [("file", e.file), ("issues", .list (e.issues.map IssueEntry.toValue)), ("score", e.score)]

/-- Reads an entry. -/
def ofValue (v : Value) : Except Misuse SecurityEntry := do
  let file ← v.field "file"
  let issues ← readMembers IssueEntry.ofValue (← v.fieldOr "issues" (.list []))
  return ⟨file, issues, ← v.field "score"⟩

/-- The number of findings with a severity. -/
def count (e : SecurityEntry) (severity : String) : Nat :=
  e.issues.countP (·.severity.isText severity)

end SecurityEntry

/-- A range of lines in a file. -/
structure Location where
  file : Value
  startLine : Value
  endLine : Value
  deriving DecidableEq

namespace Location

/-- The location as an object. -/
def toValue (l : Location) : Value :=
  .obj [("file", l.file), ("startLine", l.startLine), ("endLine", l.endLine)]

/-- Reads a location. -/
def ofValue (v : Value) : Except Misuse Location := do
  return ⟨← v.field "file", ← v.field "startLine", ← v.field "endLine"⟩

/-- A location as file and lines. -/
def text (l : Location) : String := l.file.text ++ ":" ++ l.startLine.text ++ "-" ++ l.endLine.text

end Location

/-- Two ranges of lines that are nearly the same. -/
structure FragmentEntry where
  first : Location
  second : Location
  lines : Value
  similarity : Value
  deriving DecidableEq

namespace FragmentEntry

/-- The entry as an object. -/
def toValue (e : FragmentEntry) : Value :=
  .obj [("fragment1", e.first.toValue), ("fragment2", e.second.toValue), ("lines", e.lines),
    ("similarity", e.similarity)]

/-- Reads an entry. -/
def ofValue (v : Value) : Except Misuse FragmentEntry := do
  let first ← Location.ofValue (← v.field "fragment1")
  let second ← Location.ofValue (← v.field "fragment2")
  return ⟨first, second, ← v.field "lines", ← v.field "similarity"⟩

/-- The size of a fragment weighted by its similarity. -/
def weight (e : FragmentEntry) : Except Misuse Value := e.lines.times e.similarity

end FragmentEntry

/-- The duplication part of a report. -/
structure DuplicationPart where
  fragments : List FragmentEntry
  totalLines : Value
  percentage : Value
  deriving DecidableEq

namespace DuplicationPart

/-- The part of a project without duplicates. -/
def empty : DuplicationPart := ⟨[], .int 0, .float (Double.zero false)⟩

/-- The part as an object. -/
def toValue (p : DuplicationPart) : Value :=
  .obj [("duplicates", .list (p.fragments.map FragmentEntry.toValue)),
    ("totalDuplicateLines", p.totalLines), ("duplicationPercentage", p.percentage)]

/-- Reads the part; everything in it may be missing. -/
def ofValue (v : Value) : Except Misuse DuplicationPart := do
  let fragments ← readMembers FragmentEntry.ofValue (← v.fieldOr "duplicates" (.list []))
  return ⟨fragments, ← v.fieldOr "totalDuplicateLines" empty.totalLines,
    ← v.fieldOr "duplicationPercentage" empty.percentage⟩

end DuplicationPart

/-- One dependency.  Vulnerabilities and age are null as long as they are unknown. -/
structure DependencyEntry where
  name : Value
  version : Value
  scope : Value
  vulnerabilities : Value
  outdated : Value
  deriving DecidableEq

namespace DependencyEntry

/-- The entry as an object. -/
def toValue (e : DependencyEntry) : Value :=
  .obj [("name", e.name), ("version", e.version), ("type", e.scope),
    ("vulnerabilities", e.vulnerabilities), ("outdated", e.outdated)]

/-- Reads an entry. -/
def ofValue (v : Value) : Except Misuse DependencyEntry := do
  return ⟨← v.field "name", ← v.field "version", ← v.field "type",
    ← v.fieldOr "vulnerabilities" .null, ← v.fieldOr "outdated" .null⟩

/-- Whether a dependency has known vulnerabilities. -/
def isVulnerable (e : DependencyEntry) : Except Misuse Bool :=
  if e.vulnerabilities.truthy then e.vulnerabilities.test .gt (.int 0) else .ok false

end DependencyEntry

/-- The dependency part of a report. -/
structure DependencyPart where
  dependencies : List DependencyEntry
  locked : Value
  deriving DecidableEq

namespace DependencyPart

/-- The part of a project without dependencies. -/
def empty : DependencyPart := ⟨[], .bool false⟩

/-- The part as an object. -/
def toValue (p : DependencyPart) : Value :=
  .obj [("dependencies", .list (p.dependencies.map DependencyEntry.toValue)),
    ("dependencyCount", .ofNat p.dependencies.length), ("hasPackageLock", p.locked)]

/-- Reads the part; everything in it may be missing. -/
def ofValue (v : Value) : Except Misuse DependencyPart := do
  let dependencies ← readMembers DependencyEntry.ofValue (← v.fieldOr "dependencies" (.list []))
  return ⟨dependencies, ← v.fieldOr "hasPackageLock" empty.locked⟩

/-- The dependencies with known vulnerabilities. -/
def vulnerable (p : DependencyPart) : Except Misuse (List DependencyEntry) :=
  p.dependencies.filterM DependencyEntry.isVulnerable

end DependencyPart

/-- The counts at the head of a report. -/
structure Summary where
  files : Value
  highComplexity : Value
  issues : Value
  criticalIssues : Value
  duplicationRate : Value
  deriving DecidableEq

namespace Summary

/-- The summary of nothing. -/
def empty : Summary := ⟨.int 0, .int 0, .int 0, .int 0, .float (Double.zero false)⟩

/-- The summary as an object. -/
def toValue (s : Summary) : Value :=
  .obj [("totalFiles", s.files), ("highComplexityFiles", s.highComplexity),
    ("securityIssues", s.issues), ("criticalSecurityIssues", s.criticalIssues),
    ("duplicationRate", s.duplicationRate)]

/-- Reads a summary; everything in it may be missing. -/
def ofValue (v : Value) : Except Misuse Summary := do
  return ⟨← v.fieldOr "totalFiles" empty.files,
    ← v.fieldOr "highComplexityFiles" empty.highComplexity,
    ← v.fieldOr "securityIssues" empty.issues,
    ← v.fieldOr "criticalSecurityIssues" empty.criticalIssues,
    ← v.fieldOr "duplicationRate" empty.duplicationRate⟩

end Summary

/-- The report of a survey. -/
structure Report where
  project : Value
  timestamp : Value
  complexity : List ComplexityEntry
  security : List SecurityEntry
  duplication : DuplicationPart
  dependencies : DependencyPart
  summary : Summary
  recommendations : List Value
  deriving DecidableEq

namespace Report

/-- The fields of a report as an object. -/
def fields (r : Report) : List (String × Value) :=
  [("projectPath", r.project), ("timestamp", r.timestamp),
    ("complexity", .list (r.complexity.map ComplexityEntry.toValue)),
    ("security", .list (r.security.map SecurityEntry.toValue)),
    ("duplication", r.duplication.toValue), ("dependencies", r.dependencies.toValue),
    ("summary", r.summary.toValue), ("recommendations", .list r.recommendations)]

/-- The report as an object. -/
def toValue (r : Report) : Value := .obj r.fields

/-- Reads a report; only the project and the time have to be there. -/
def ofValue (v : Value) : Except Misuse Report := do
  let project ← v.field "projectPath"
  let timestamp ← v.field "timestamp"
  let complexity ← readMembers ComplexityEntry.ofValue (← v.fieldOr "complexity" (.list []))
  let security ← readMembers SecurityEntry.ofValue (← v.fieldOr "security" (.list []))
  let duplication ← DuplicationPart.ofValue (← v.fieldOr "duplication" (.obj []))
  let dependencies ← DependencyPart.ofValue (← v.fieldOr "dependencies" (.obj []))
  let summary ← Summary.ofValue (← v.fieldOr "summary" (.obj []))
  let recommendations ← (← v.fieldOr "recommendations" (.list [])).members
  return ⟨project, timestamp, complexity, security, duplication, dependencies, summary,
    recommendations⟩

/-- The report as a JSON text. -/
def toJson (r : Report) (indent : Option Int) : String := Json.write indent r.toValue

/-- The report as a JSON text with an indent that may be out of range. -/
def dump (r : Report) (indent : Option Int) : Except Misuse String := Json.dump indent r.toValue

end Report

/-- Reads a JSON text. -/
def readJson (text : String) : Except Failure Value :=
  match Json.read text.toList with
  | .ok v => .ok v
  | .error (.flaw what left) => .error (.notJson text.toList what left)
  | .error (.tooManyDigits n) => .error (.misuse (.tooManyDigits n))

/-- Reads a report from a JSON text. -/
def Report.ofJson (text : String) : Except Failure Report := do
  orFail (Report.ofValue (← readJson text))

end SourceSurvey
