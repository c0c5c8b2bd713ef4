import SourceSurvey.Layout.Markup
import SourceSurvey.Layout.Wrap

/-!
# Frames

Paragraphs, panels and tables as lines of a fixed-width display.

* `paragraph`: wrapped text;
* `panel`: a rounded frame with a title around a text, as wide as the text;
* `Table`: columns as wide as their widest cell, under a heavy head.
-/

namespace SourceSurvey.Layout

/-- Lines as a text, each with a line feed. -/
def ofLines (lines : List (List Char)) : String :=
  String.ofList (lines.flatMap fun line => line ++ ['\n'])

/-- A paragraph with markup. -/
def paragraph (width : Nat) (markup : String) : Except Failure String := do
  return ofLines (wrap width (← shown markup))

/-- A rule. -/
def rule (c : Char) (n : Nat) : List Char := List.replicate n c

/-- A panel with a title, at most `width` cells wide. -/
def panel (width : Nat) (title markup : String) : Except Failure String := do
  let head := ' ' :: (← shown title) ++ [' ']
  let text ← shown markup
  let room := min (width - 2) (max (measure text + 2) (Text.cells head + 2))
  let excess := room - 2 - Text.cells head
  let top := '╭' :: rule '─' (1 + excess / 2) ++ head ++
    rule '─' (1 + (excess - excess / 2)) ++ ['╮']
  let body := (wrap (room - 2) text).map fun line => '│' :: ' ' :: cut (room - 2) line ++ [' ', '│']
  return ofLines (top :: body ++ ['╰' :: rule '─' room ++ ['╯']])

/-- A column of a table: its title, whether its cells stand at the right, and whether they may be
wrapped. -/
structure Column where
  title : String
  atRight : Bool
  wraps : Bool

/-- A table: columns, and rows with a cell of markup for each column. -/
structure Table where
  columns : List Column
  rows : List (List String)

namespace Table

/-- A column with its cells as they are shown, the title first. -/
structure Filled where
  column : Column
  cells : List (List Char)

/-- The width of a column without the spaces around its cells. -/
def Filled.width (f : Filled) : Nat := (f.cells.map measure).foldl max 0

/-- The columns with their cells. -/
def filled (t : Table) : Except Failure (List Filled) :=
  t.columns.zipIdx.mapM fun (column, i) => do
    let texts := column.title :: t.rows.map fun row => row.getD i ""
    return ⟨column, ← texts.mapM shown⟩

/-- A line of a cell at its side of the column. -/
def aligned (column : Column) (width : Nat) (line : List Char) : List Char :=
  if column.atRight then
    let text := shorten width (Text.trimEnd line)
    spaces (width - Text.cells text) ++ text
  else
    let text := shorten width line
    text ++ spaces (width - Text.cells text)

/-- The lines of a cell, each as wide as the column with a space on either side. -/
def cellLines (column : Column) (width : Nat) (text : List Char) : List (List Char) :=
  (linesAtFeeds text).flatMap fun line =>
    let line := expandTabs line
    (if column.wraps then wrapLine width false line else [line]).map fun l =>
      ' ' :: aligned column width (trimExcess width l) ++ [' ']

/-- A line across all columns: an edge, one part for each column with dividers between them, and an
edge. -/
def across (left divider right : Char) (parts : List (List Char)) : List Char :=
  left :: List.intercalate [divider] parts ++ [right]

/-- The lines of one row, given the lines of its cells with their widths. -/
def rowLines (edge : Char) (cells : List (Nat × List (List Char))) : List (List Char) :=
  let height := (cells.map (·.2.length)).foldl max 1
  (List.range height).map fun i =>
    across edge edge edge (cells.map fun (width, lines) => lines.getD i (spaces (width + 2)))

/-- The lines of the row with a number; the head has number zero. -/
def row (columns : List Filled) (edge : Char) (number : Nat) : List (List Char) :=
  rowLines edge (columns.map fun f =>
    (f.width, cellLines f.column f.width (f.cells.getD number [])))

/-- The table as lines. -/
def render (t : Table) : Except Failure String := do
  let columns ← t.filled
  let rules (c : Char) : List (List Char) := columns.map fun f => rule c (f.width + 2)
  let body := (List.range t.rows.length).flatMap fun i => row columns '│' (i + 1)
  return ofLines (across '┏' '┳' '┓' (rules '━') :: row columns '┃' 0 ++
    across '┡' '╇' '┩' (rules '━') :: body ++ [across '└' '┴' '┘' (rules '─')])

end Table

end SourceSurvey.Layout
