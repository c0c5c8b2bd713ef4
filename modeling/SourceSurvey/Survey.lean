import SourceSurvey.Audit.Basic
import SourceSurvey.Corpus
import SourceSurvey.Report.Entries
import SourceSurvey.Report.Summary
import SourceSurvey.Settings.Load

/-!
# Surveys

A survey takes one snapshot of the files of a project, puts the same snapshot through the four
analyses, and makes a report of their results.  All four analyses run to their end, also when one of
them fails; of several failures the first in the order of the analyses is the failure of the survey.

* `Analyses`, the four analyses as values, and `Analyses.all`, their common outcome;
* `survey`: a report about the files that a corpus gives;
* `surveyDirectory`: a report about a directory, with settings loaded from all their sources.
-/

namespace SourceSurvey

/-- Two computations of which neither waits for the other; the first failure counts. -/
def Traced.both {α β : Type} (x : Traced α) (y : Traced β) : Traced (α × β) :=
  ⟨x.trail ++ y.trail, do return (← x.outcome, ← y.outcome)⟩

/-- The four analyses of a snapshot. -/
structure Analyses where
  complexity : Traced (List ComplexityEntry)
  security : Traced (List SecurityEntry)
  duplication : Traced DuplicationPart
  dependencies : Traced DependencyPart

/-- The results of the four analyses. -/
structure Results where
  complexity : List ComplexityEntry
  security : List SecurityEntry
  duplication : DuplicationPart
  dependencies : DependencyPart

/-- Scores the files of a snapshot. -/
def scoreAll (mean : List Nat → Double) (shapes : List Span.Header) (files : List SourceFile) :
    Traced (List ComplexityEntry) := do
  Traced.log .debug s!"Scored complexity for {files.length} files"
  return files.map fun f => (Complexity.score shapes f mean).toEntry

/-- Scans the files of a snapshot; files without findings are left out. -/
def scanAll (rules : List Rule) (files : List SourceFile) : Traced (List SecurityEntry) := do
  let found := files.filterMap (scan rules)
  Traced.log .debug s!"Security scan flagged {found.length} of {files.length} files"
  return found.map (·.toEntry)

/-- Looks for clones in a snapshot. -/
def detectAll (thresholds : Thresholds) (files : List SourceFile) : Traced DuplicationPart := do
  return (← Duplication.detect (← thresholds.limits) files).toPart

namespace Analyses

/-- The analyses of the snapshot of a project. -/
def of (w : World) (settings : Settings) (auditor : Auditor) (path : String)
    (files : List SourceFile) : Analyses :=
  ⟨scoreAll w.mean Span.Header.all files, scanAll Rule.all files,
    detectAll settings.thresholds files, auditor.audit w path⟩

/-- The outcome of all four analyses together. -/
def all (a : Analyses) : Traced Results := do
  let (complexity, security, duplication, dependencies) ←
    a.complexity.both (a.security.both (a.duplication.both a.dependencies))
  return ⟨complexity, security, duplication, dependencies⟩

end Analyses

/-- The report about the results of the analyses. -/
def Results.report (r : Results) (path : String) (timestamp : Int) (summary : Summary)
    (texts : List String) : Report :=
  ⟨.str path, .int timestamp, r.complexity, r.security, r.duplication, r.dependencies, summary,
    texts.map .str⟩

/-- The time of a report in milliseconds. -/
def timestamp (w : World) : Except Misuse Int := do (← w.clock.mul (.int 1000)).toValue.toInteger

/-- What is logged about a finished survey. -/
def completion (s : Summary) : Except Misuse String := do
  return s!"Analysis complete: {s.files.text} files, {s.issues.text} security issues, " ++
    (← s.duplicationRate.fixed 1) ++ "% duplication"

/-- The report about the files that a corpus gives for a path. -/
def survey (w : World) (settings : Settings) (corpus : String → Traced (List SourceFile))
    (auditor : Auditor) (path : String) : Traced Report := do
  Traced.log .info s!"Analyzing project {path}"
  let files := (← corpus path).filter fun f => isSourceFile f.path
  Traced.log .debug s!"{files.length} analyzable files in snapshot"
  let results ← (Analyses.of w settings auditor path files).all
  let summary ← Summary.of results.complexity results.security results.duplication
  let texts ← recommendations results.complexity results.security results.duplication
    results.dependencies settings.thresholds.warning
  Traced.log .info (← completion summary)
  return results.report path (← timestamp w) summary texts

/-- The report about a directory under settings. -/
def surveyWith (w : World) (settings : Settings) (path : String) : Traced Report :=
  survey w settings (Corpus.enumerate w (.usual settings)) (.ofSettings settings) path

/-- The report about a directory, with settings from all their sources. -/
def surveyDirectory (w : World) (file : Option Route) (overrides : Settings.Overrides)
    (path : String) : Traced Report := do
  let settings ← Settings.load w file overrides
  Traced.log .debug s!"Configuration loaded: {settings.verbosity.text} mode"
  surveyWith w settings path

end SourceSurvey
