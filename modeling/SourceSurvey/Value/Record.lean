import SourceSurvey.Value.Access

/-!
# Records from named fields

A record has a name and a list of fields with defaults.  `fill` puts given values into it, and fails
at the first name that the record does not have.
-/

namespace SourceSurvey

/-- A record: its name in messages, and its fields with their defaults. -/
structure RecordShape where
  name : String
  defaults : List (String × Value)

namespace RecordShape

/-- The record as something that is called with named values. -/
def caller (shape : RecordShape) : String := shape.name ++ ".__init__"

/-- Fails at the first given name that is no field. -/
def check (shape : RecordShape) : List (String × Value) → Except Misuse Unit
  | [] => .ok ()
  | (name, _) :: rest =>
    if name = "self" then .error (.repeatedArgument shape.caller name)
    else if (shape.defaults.lookup name).isSome then shape.check rest
    else .error (.unknownField shape.caller name)

/-- The fields of a record with the given values in place of defaults. -/
def fill (shape : RecordShape) (given : List (String × Value)) :
    Except Misuse (List (String × Value)) := do
  shape.check given
  return shape.defaults.map fun (name, default) => (name, (given.lookup name).getD default)

end RecordShape

end SourceSurvey
