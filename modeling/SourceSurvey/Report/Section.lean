import SourceSurvey.Value.Access
import SourceSurvey.Value.Sort

/-!
# Sections

The sections of a report, and the choice of some of them by loosely typed names.
-/

namespace SourceSurvey

/-- The sections of a report. -/
inductive Section where
  | summary
  | complexity
  | security
  | duplication
  | dependencies
  deriving DecidableEq

namespace Section

/-- All sections in their order. -/
def all : List Section := [.summary, .complexity, .security, .duplication, .dependencies]

/-- The name of a section. -/
def text : Section → String
  | .summary => "summary"
  | .complexity => "complexity"
  | .security => "security"
  | .duplication => "duplication"
  | .dependencies => "dependencies"

/-- The name that stands for all sections. -/
def everything : String := "all"

/-- Members without those that equal an earlier one. -/
def distinct (members : List Value) : List Value :=
  members.foldl (fun seen v => if seen.any (Value.agrees v) then seen else seen ++ [v]) []

/-- Refuses names that belong to no section. -/
def refuseUnknown (unknown : List Value) : Except Misuse Unit := do
  if unknown.isEmpty then return
  let names ← Value.join ", " (← Sort.rising (Value.test .lt) unknown)
  throw (.invalid (s!"Unknown section(s): {names}. Choose from: " ++
    String.intercalate ", " (everything :: all.map text)))

/-- The sections with the given names, in their own order; no names at all stand for all
sections. -/
def resolve (names : Value) : Except Misuse (List Section) := do
  let members ← if names.truthy then names.members else pure [.str everything]
  let requested ← members.mapM Value.hashable
  if requested.any (·.isText everything) then return all
  refuseUnknown (distinct (requested.filter fun v => !all.any fun s => v.isText s.text))
  return all.filter fun s => requested.any (·.isText s.text)

end Section

end SourceSurvey
