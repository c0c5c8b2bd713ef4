import SourceSurvey.Report.Basic

/-!
# Summary and recommendations

`Summary.of` counts what the parts of a report hold.  `recommendations` goes through a fixed list of
checks; each adds at most one text, and when none does, the list holds a single word of praise.
-/

namespace SourceSurvey

/-- The number of findings with a severity. -/
def countIssues (security : List SecurityEntry) (severity : String) : Nat :=
  (security.map (·.count severity)).foldr (· + ·) 0

/-- The files that are rated high or very high. -/
def highFiles (complexity : List ComplexityEntry) : Except Misuse (List ComplexityEntry) :=
  complexity.filterM ComplexityEntry.isHigh

/-- The summary of the parts of a report. -/
def Summary.of (complexity : List ComplexityEntry) (security : List SecurityEntry)
    (duplication : DuplicationPart) : Except Misuse Summary := do
  let high ← highFiles complexity
  return ⟨.ofNat complexity.length, .ofNat high.length,
    .ofNat ((security.map (·.issues.length)).foldr (· + ·) 0),
    .ofNat (countIssues security "critical"),
    duplication.percentage⟩

namespace Recommendation

/-- The share of duplicated lines above which a recommendation is given, when nothing else is
said. -/
def defaultWarning : Value := .float (Double.ofNat 10)

/-- What is said when nothing is wrong. -/
def praise : String := "Great job! No major issues found. Continue following best practices."

/-- A text about a number of things, if there are any. -/
def counted (n : Nat) (text : String) : List String := if 0 < n then [text] else []

/-- Files to be broken down. -/
def refactor (n : Nat) : String :=
  s!"Refactor {n} file(s) with high complexity. " ++
    "Consider breaking down large functions into smaller, more manageable ones."

/-- Critical findings. -/
def address (n : Nat) : String :=
  s!"Address {n} critical security issue(s) immediately, " ++
    "focusing on code injection and XSS vulnerabilities."

/-- Findings of high severity. -/
def review (n : Nat) : String :=
  s!"Review {n} high-severity security issue(s), " ++
    "particularly hardcoded secrets and weak cryptography."

/-- Duplicated lines, given the share as a text. -/
def reduce (share : String) : String :=
  s!"Reduce code duplication ({share}% of codebase). " ++
    "Extract common logic into shared utilities or modules."

/-- Dependencies with known vulnerabilities. -/
def update (n : Nat) (names : String) : String :=
  s!"Update {n} dependenc(y/ies) with known vulnerabilities: {names}"

/-- A missing lock file. -/
def lock : String :=
  "Lock dependency versions using package-lock.json or yarn.lock to ensure reproducible builds."

/-- The text about duplication, if the share is above the bound. -/
def ofDuplication (duplication : DuplicationPart) (warning : Value) :
    Except Misuse (List String) := do
  if ← duplication.percentage.test .gt warning then
    return [reduce (← duplication.percentage.fixed 1)]
  else return []

/-- The text about vulnerable dependencies, if there are any. -/
def ofDependencies (dependencies : DependencyPart) : Except Misuse (List String) := do
  match ← dependencies.vulnerable with
  | [] => return []
  | found => return [update found.length (← Value.join ", " (found.map (·.name)))]

end Recommendation

open Recommendation in
/-- The recommendations for the parts of a report. -/
def recommendations (complexity : List ComplexityEntry) (security : List SecurityEntry)
    (duplication : DuplicationPart) (dependencies : DependencyPart) (warning : Value) :
    Except Misuse (List String) := do
  let high := (← highFiles complexity).length
  let critical := countIssues security "critical"
  let severe := countIssues security "high"
  let texts := counted high (refactor high) ++ counted critical (address critical) ++
    counted severe (review severe) ++ (← ofDuplication duplication warning) ++
    (← ofDependencies dependencies) ++ (if dependencies.locked.truthy then [] else [lock])
  return if texts.isEmpty then [praise] else texts

end SourceSurvey
