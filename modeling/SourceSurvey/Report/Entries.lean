import SourceSurvey.Clone.Search
import SourceSurvey.Complexity
import SourceSurvey.Report.Basic
import SourceSurvey.Rule.Basic

/-!
# Entries of a report

How the results of the analyses stand in a report.
-/

namespace SourceSurvey

/-- The score of a function as an entry. -/
def Complexity.FunctionScore.toEntry (s : Complexity.FunctionScore) : FunctionEntry :=
  ⟨.str (String.ofList s.name), .ofNat s.complexity, .ofNat s.line⟩

/-- The score of a file as an entry. -/
def Complexity.FileScore.toEntry (s : Complexity.FileScore) : ComplexityEntry :=
  ⟨.str s.file, .float s.average, s.functions.map (·.toEntry), .str s.rating.text⟩

/-- A finding as an entry. -/
def Finding.toEntry (f : Finding) : IssueEntry :=
  ⟨.str f.rule.category, .str f.rule.severity.text, .str f.message, .ofNat f.line, .str f.rule.name⟩

/-- The findings of a file as an entry. -/
def FileFindings.toEntry (s : FileFindings) : SecurityEntry :=
  ⟨.str s.file, s.findings.map (·.toEntry), .int s.score⟩

/-- A range of lines as a location. -/
def Range.toLocation (r : Range) : Location := ⟨.str r.file, .int r.first, .int r.last⟩

/-- A clone as an entry. -/
def Clone.toEntry (c : Clone) : FragmentEntry :=
  ⟨c.first.toLocation, c.second.toLocation, .ofNat c.size, .float c.similarity⟩

/-- The duplication of a project as a part of a report. -/
def Duplication.toPart (d : Duplication) : DuplicationPart :=
  ⟨d.kept.map (·.toEntry), .ofNat d.lines, .float d.percentage⟩

end SourceSurvey
