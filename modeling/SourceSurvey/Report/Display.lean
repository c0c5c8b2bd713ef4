import SourceSurvey.Layout.Frame
import SourceSurvey.Report.Section
import SourceSurvey.Report.Summary

/-!
# Reports on a display

A report as a panel with the summary, a table for each chosen section, and the list of
recommendations.  A table shows its first rows and says how many more there are.
-/

namespace SourceSurvey.Display

open Layout

/-- The greatest number of rows in a table. -/
def maxRows : Nat := 5

/-- A text between an opening and a closing tag. -/
def styled (style text : String) : String := s!"[{style}]{text}[/{style}]"

/-- A blank line. -/
def blank : String := "\n"

/-- Texts one after the other. -/
def all (parts : List (Except Failure String)) : Except Failure String := do
  return String.join (← parts.mapM id)

/-- A column that is never wrapped. -/
def fixedColumn (title : String) : Column := ⟨title, false, false⟩

/-- A column of numbers. -/
def numberColumn (title : String) : Column := ⟨title, true, true⟩

/-- A column of words. -/
def wordColumn (title : String) : Column := ⟨title, false, true⟩

/-- What follows a table: the number of rows that are left out, and a blank line. -/
def more (width total : Nat) (noun : String) : Except Failure String := do
  let note ←
    if maxRows < total then
      paragraph width ("  " ++ styled "dim" s!"... and {total - maxRows} more {noun}")
    else pure ""
  return note ++ blank

/-- A table of the first entries, and what follows it. -/
def tableOf {α : Type} (width : Nat) (columns : List Column)
    (row : α → Except Failure (List String)) (noun : String)
    (entries : List α) : Except Failure String := do
  let rows ← (entries.take maxRows).mapM row
  return (← (Table.mk columns rows).render) ++ (← more width entries.length noun)

/-- The panel with the summary. -/
def summary (width : Nat) (r : Report) : Except Failure String := do
  let s := r.summary
  let body := styled "bold" "Project:" ++ " " ++ (← escaped r.project) ++ "\n" ++
    styled "bold" "Analyzed:" ++ s!" {s.files.text} files\n\n" ++
    s!"High complexity files:  {s.highComplexity.text}\n" ++
    s!"Security issues:        {s.issues.text}\n" ++
    s!"Critical security:      {s.criticalIssues.text}\n" ++
    "Duplication rate:       " ++ (← s.duplicationRate.fixed 1) ++ "%"
  return blank ++ (← panel width (styled "bold cyan" "Code Analysis Report") body) ++ blank

/-- The style of a rating. -/
def ratingStyle (rating : Value) : String :=
  if rating.isText "very-high" then "red bold" else "red"

/-- The row of a file in the table of complexity. -/
def complexityRow (e : ComplexityEntry) : Except Failure (List String) := do
  return [← escaped e.file, ← e.average.fixed 1, toString e.functions.length,
    styled (ratingStyle e.rating) e.rating.text]

/-- The section on complexity: the files that are rated high, the worst first. -/
def complexity (width : Nat) (r : Report) : Except Failure String := do
  let high ← highFiles r.complexity
  let flagged ← Sort.falling (fun a b : ComplexityEntry => a.average.test .lt b.average) high
  let title ← paragraph width (styled "bold" "Complexity Analysis")
  if flagged.isEmpty then
    return title ++ (← paragraph width ("  " ++ styled "green" "No high-complexity files." ++ "\n"))
  return title ++ (← tableOf width
    [fixedColumn "File", numberColumn "Avg", numberColumn "Functions", wordColumn "Rating"]
    complexityRow "files" flagged)

/-- The style of a score. -/
def scoreStyle (score : Value) : Except Misuse String := do
  if ← score.test .ge (.int 80) then return "green"
  else if ← score.test .ge (.int 50) then return "yellow"
  else return "red"

/-- The row of a file in the table of findings. -/
def securityRow (e : SecurityEntry) : Except Failure (List String) := do
  return [← escaped e.file, toString e.issues.length, toString (e.count "critical"),
    toString (e.count "high"), styled (← scoreStyle e.score) e.score.text]

/-- The section on findings. -/
def security (width : Nat) (r : Report) : Except Failure String := do
  let title ← paragraph width (styled "bold" "Security Issues")
  if r.security.isEmpty then
    return title ++ (← paragraph width ("  " ++ styled "green" "No security issues found!" ++ "\n"))
  return title ++ (← tableOf width
    [fixedColumn "File", numberColumn "Issues", numberColumn "Critical", numberColumn "High",
      numberColumn "Score"]
    securityRow "files" r.security)

/-- The row of a fragment. -/
def fragmentRow (e : FragmentEntry) : Except Failure (List String) := do
  return [← escaped (.str e.first.text), ← escaped (.str e.second.text), e.lines.text,
    ← e.similarity.percent]

/-- The section on duplication. -/
def duplication (width : Nat) (r : Report) : Except Failure String := do
  let part := r.duplication
  let head ← all
    [paragraph width (styled "bold" "Code Duplication"),
      paragraph width s!"  Duplicate lines:   {part.totalLines.text}",
      do paragraph width ("  Duplication rate:  " ++ (← part.percentage.fixed 1) ++ "%")]
  if part.fragments.isEmpty then return head ++ blank
  return head ++ (← paragraph width s!"  Found {part.fragments.length} duplicate fragments") ++
    (← tableOf width
      [fixedColumn "Fragment", fixedColumn "Duplicate of", numberColumn "Lines",
        numberColumn "Similarity"]
      fragmentRow "fragments" part.fragments)

/-- What an audit found out about a dependency; what is unknown stays apart from nothing. -/
def lookupLabel : Value → String
  | .null => styled "dim" "unknown"
  | .bool true => styled "yellow" "yes"
  | .bool false => "no"
  | v => if v.truthy then styled "red" v.text else v.text

/-- A loosely typed cell, which has to be a text or nothing. -/
def cellOf : Value → Except Failure String
  | .null => .ok ""
  | .str s => .ok s
  | v => .error (.notRenderable v.kind)

/-- The row of a dependency. -/
def dependencyRow (e : DependencyEntry) : Except Failure (List String) := do
  return [← escaped e.name, ← escaped e.version, ← cellOf e.scope, lookupLabel e.vulnerabilities,
    lookupLabel e.outdated]

/-- The section on dependencies: those with vulnerabilities or newer releases. -/
def dependencies (width : Nat) (r : Report) : Except Failure String := do
  let part := r.dependencies
  let lock := if part.locked.truthy then styled "green" "yes" else styled "red" "no"
  let head ← all
    [paragraph width (styled "bold" "Dependencies"),
      paragraph width s!"  Total:                 {part.dependencies.length}",
      do paragraph width s!"  With vulnerabilities:  {(← part.vulnerable).length}",
      paragraph width s!"  Package lock:          {lock}"]
  let flagged := part.dependencies.filter fun d => d.vulnerabilities.truthy || d.outdated.truthy
  if flagged.isEmpty then return head ++ blank
  return head ++ (← tableOf width
    [fixedColumn "Package", wordColumn "Version", wordColumn "Type", numberColumn "Vulnerabilities",
      wordColumn "Outdated"]
    dependencyRow "packages" flagged)

/-- The list of recommendations. -/
def recommendations (width : Nat) (r : Report) : Except Failure String := do
  if r.recommendations.isEmpty then return ""
  let title ← paragraph width (styled "bold" "Recommendations")
  let lines ← r.recommendations.zipIdx.mapM fun (text, i) => do
    paragraph width (s!"  {i + 1}. " ++ (← escaped text))
  return title ++ String.join lines ++ blank

/-- The display of one section; the summary is shown apart. -/
def shownSection (width : Nat) (r : Report) : Section → Except Failure String
  | .summary => .ok ""
  | .complexity => complexity width r
  | .security => security width r
  | .duplication => duplication width r
  | .dependencies => dependencies width r

/-- A report with the chosen sections on a display. -/
def report (width : Nat) (sections : List Section) (r : Report) : Except Failure String :=
  all (summary width r :: sections.map (shownSection width r) ++ [recommendations width r])

end SourceSurvey.Display
