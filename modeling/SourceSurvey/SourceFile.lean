import SourceSurvey.Text.Class
import SourceSurvey.Text.Lower

/-!
# Source files

A file of the project as the analyses see it: a path and its content.  Lines end at the line feed
and at nothing else, so a content always has at least one line.
-/

namespace SourceSurvey

/-- A file of the snapshot. -/
structure SourceFile where
  path : String
  content : String
  deriving DecidableEq

/-- The lines of a text: the parts between its line feeds. -/
def linesOf : List Char → List (List Char)
  | [] => [[]]
  | c :: cs =>
    if c = '\n' then [] :: linesOf cs
    else
      match linesOf cs with
      | [] => [[c]]
      | line :: rest => (c :: line) :: rest

/-- The lines of a file. -/
def SourceFile.lines (f : SourceFile) : List (List Char) := linesOf f.content.toList

/-- The form in which lines are compared: without blanks at the ends, in lower case, with each run
of blanks as one space. -/
def normalLine (line : List Char) : List Char := Text.squeeze (Text.lower (Text.trim line))

end SourceSurvey
