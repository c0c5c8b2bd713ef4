import SourceSurvey.Text.Class
import SourceSurvey.Text.Cells

/-!
# Lines of a given width

Text laid out in lines of a fixed-width display.  A word takes the blanks behind it along and goes
to the next line when it does not fit without them; a word that fits on no line is cut up or left as
it is.

* `words`, `wrapLine`, `wrap`;
* `cut`, `shorten`: exactly so many cells, with blanks; at most so many, with an ellipsis;
* `measure`: the width that a text asks for.
-/

namespace SourceSurvey.Layout

/-- Spaces. -/
def spaces (n : Nat) : List Char := List.replicate n ' '

/-- The distance of tab stops. -/
def tabStop : Nat := 8

/-- Tabs as spaces up to the next stop.  `part` holds what stands behind the last tab, in reverse,
and begins at `column`; a tab is a space at least. -/
def expandTabsFrom (column : Nat) (part : List Char) : List Char → List Char
  | [] => part.reverse
  | c :: rest =>
    if c = '\t' then
      let start := (' ' :: part).reverse
      let column := column + Text.cells start
      let fill := (tabStop - column % tabStop) % tabStop
      start ++ spaces fill ++ expandTabsFrom (column + fill) [] rest
    else expandTabsFrom column (c :: part) rest

/-- Tabs as spaces up to the next stop. -/
def expandTabs (line : List Char) : List Char := expandTabsFrom 0 [] line

/-- The words of a text, each with the blanks behind it, and the first also with those before it.  A
text of blanks has no words. -/
def words (text : List Char) : List (List Char) :=
  match text.splitBy fun a b => !(Text.isBlank a && !Text.isBlank b) with
  | first :: second :: rest =>
    if first.all Text.isBlank then (first ++ second) :: rest else first :: second :: rest
  | groups => groups.filter fun g => !g.all Text.isBlank

/-- Cuts a text into lines of at most `width` cells, with `used` cells taken by the characters in
`line`, which are in reverse. -/
def chopFrom (width used : Nat) (line : List Char) : List Text.Cluster → List (List Char)
  | [] => [line.reverse]
  | k :: rest =>
    if width < used + k.cells then line.reverse :: chopFrom width k.cells k.reversed rest
    else chopFrom width (used + k.cells) (k.reversed ++ line) rest

/-- Cuts a text into lines of at most `width` cells. -/
def chop (width : Nat) (text : List Char) : List (List Char) :=
  chopFrom width 0 [] (Text.clusters text)

/-- Lines under way: those that are done, the current one, and the cells that it counts for. -/
structure Wrapping where
  done : List (List Char)
  current : List Char
  used : Nat

namespace Wrapping

/-- Nothing yet. -/
def start : Wrapping := ⟨[], [], 0⟩

/-- Adds a part of a text on a line of its own; the very first line is not left empty. -/
def onNewLine (w : Wrapping) (part : List Char) : Wrapping :=
  if w.done.isEmpty && w.current.isEmpty then ⟨[], part, Text.cells part⟩
  else ⟨w.done ++ [w.current], part, Text.cells part⟩

/-- Adds a word. -/
def add (width : Nat) (fold : Bool) (w : Wrapping) (word : List Char) : Wrapping :=
  let needed := Text.cells (Text.trimEnd word)
  if w.used + needed ≤ width then ⟨w.done, w.current ++ word, w.used + Text.cells word⟩
  else if width < needed && fold then (chop width word).foldl onNewLine w
  else w.onNewLine word

/-- The lines. -/
def lines (w : Wrapping) : List (List Char) := w.done ++ [w.current]

end Wrapping

/-- Blanks at the end of a line taken away as far as it is longer than `width` characters. -/
def trimExcess (width : Nat) (line : List Char) : List Char :=
  let blanks := (line.reverse.takeWhile Text.isBlank).length
  line.take (line.length - min blanks (line.length - width))

/-- Wraps one line of a text. -/
def wrapLine (width : Nat) (fold : Bool) (line : List Char) : List (List Char) :=
  match words line with
  | [] => [line]
  | found => (found.foldl (Wrapping.add width fold) Wrapping.start).lines

/-- The longest start of a text with at most `width` cells, and spaces for the cells that are
left. -/
def takeCells (width : Nat) : List Text.Cluster → List Char
  | [] => spaces width
  | k :: rest =>
    if k.cells ≤ width then k.text ++ takeCells (width - k.cells) rest else spaces width

/-- A text cut to at most `width` cells and filled up with spaces to exactly as many. -/
def cut (width : Nat) (text : List Char) : List Char :=
  if Text.cells text ≤ width then text ++ spaces (width - Text.cells text)
  else if width = 0 then []
  else takeCells width (Text.clusters text)

/-- A text with an ellipsis where it is longer than `width` cells. -/
def shorten (width : Nat) (text : List Char) : List Char :=
  if width < Text.cells text then cut (width - 1) text ++ ['…'] else text

/-- The lines of a text at line feeds. -/
def linesAtFeeds : List Char → List (List Char)
  | [] => [[]]
  | c :: rest =>
    match linesAtFeeds rest with
    | [] => [[c]]
    | line :: others => if c = '\n' then [] :: line :: others else (c :: line) :: others

/-- Wraps a text at a width; words that are too long are cut up. -/
def wrap (width : Nat) (text : List Char) : List (List Char) :=
  (linesAtFeeds text).flatMap fun line =>
    (wrapLine width true (expandTabs line)).map fun l =>
      let trimmed := trimExcess width l
      if width < Text.cells trimmed then cut width trimmed else trimmed

/-- Whether a character ends a line when a text is measured. -/
def isBreak (c : Char) : Bool :=
  [0xA, 0xB, 0xC, 0xD, 0x1C, 0x1D, 0x1E, 0x85, 0x2028, 0x2029].contains c.toNat

/-- The cells of the widest line, where `line` holds the characters of the current line in
reverse. -/
def measureFrom (line : List Char) : List Char → Nat
  | [] => Text.cells line.reverse
  | c :: rest =>
    if isBreak c then max (Text.cells line.reverse) (measureFrom [] rest)
    else measureFrom (c :: line) rest

/-- The width that a text asks for: the cells of its widest line. -/
def measure (text : List Char) : Nat := measureFrom [] text

end SourceSurvey.Layout
