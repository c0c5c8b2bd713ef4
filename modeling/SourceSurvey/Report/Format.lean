import SourceSurvey.Report.Display

/-!
# Formats

The forms in which a report can be written: on a display, as a JSON text, or as nothing but its
recommendations.  How a report looks on a display is a parameter.
-/

namespace SourceSurvey

/-- The forms of a written report. -/
inductive Format where
  | display
  | json
  | quiet
  deriving DecidableEq

namespace Format

/-- The formats with their names, in the order of the names. -/
def names : List (String × Format) := [("json", .json), ("quiet", .quiet), ("rich", .display)]

/-- The format with a name. -/
def ofName (name : String) : Except Misuse Format :=
  match names.lookup name with
  | some f => .ok f
  | none =>
    .error (.invalid (s!"Unknown formatter: {Text.quoted name}. Choose from: " ++
      String.intercalate ", " (names.map (·.1))))

/-- A report with some of its sections as an object. -/
def selection (sections : List Section) (r : Report) : Value :=
  let pick (name : String) : String × Value := (name, (r.fields.lookup name).getD .null)
  .obj ([pick "projectPath", pick "timestamp"] ++ sections.map (fun s => pick s.text) ++
    [pick "recommendations"])

/-- A report as a JSON text; with all sections it is the whole report. -/
def jsonText (sections : List Section) (r : Report) : String :=
  if sections = Section.all then r.toJson (some 2) else Json.write (some 2) (selection sections r)

/-- Writes a report with the chosen sections. -/
def write (f : Format) (width : Nat) (sections : List Section) (r : Report)
    (display : Nat → List Section → Report → Except Failure String := Display.report) :
    Except Failure String :=
  match f with
  | .display => display width sections r
  | .json => .ok (jsonText sections r)
  | .quiet => orFail (Value.join "\n" r.recommendations)

/-- What is printed for a report: what is written, with a line feed unless it is a display. -/
def print (f : Format) (width : Nat) (sections : List Section) (r : Report)
    (display : Nat → List Section → Report → Except Failure String := Display.report) :
    Except Failure String := do
  let text ← f.write width sections r display
  return if f = .display then text else text ++ "\n"

end Format

end SourceSurvey
