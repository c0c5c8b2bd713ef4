import SourceSurvey.Text.Class
import SourceSurvey.Text.CellTable

/-!
# Width on a display

The number of cells that a text takes on a fixed-width display.  Most characters count for
themselves.  The joiner U+200D melts the character behind it into the one before it, and the sign
U+FE0F asks for the colourful form of a pictograph, which takes two cells.

* `cells`: the cells of a text;
* `clusters`: a text cut into parts that are shown as one character each.
-/

namespace SourceSurvey.Text

/-- The cells of one character: none, one or two. -/
def cellsOf (c : Char) : Nat :=
  if inRanges cellLessRanges c.toNat then 0 else if inRanges wideRanges c.toNat then 2 else 1

/-- The sign that joins the characters at its sides. -/
def joiner : Char := '\u200d'

/-- The sign that asks for the colourful form of the character before it. -/
def colourSign : Char := '\ufe0f'

/-- Whether a character is wider in its colourful form. -/
def isWidened (c : Char) : Bool := inRanges widenedRanges c.toNat

/-- The cells of a text, where `last` is the last character before it that took a cell and has no
colour sign yet. -/
def cellsFrom (last : Option Char) : List Char → Nat
  | [] => 0
  | c :: cs =>
    if c = joiner then
      match cs with
      | [] => 0
      | _ :: rest => cellsFrom last rest
    else if c = colourSign then (if last.any isWidened then 1 else 0) + cellsFrom none cs
    else if cellsOf c = 0 then cellsFrom last cs
    else cellsOf c + cellsFrom (some c) cs

/-- The cells of a text. -/
def cells (cs : List Char) : Nat := cellsFrom none cs

/-- Characters that are shown as one, in reverse, and their cells. -/
structure Cluster where
  reversed : List Char
  cells : Nat
  deriving DecidableEq

namespace Cluster

/-- The characters of a cluster. -/
def text (k : Cluster) : List Char := k.reversed.reverse

/-- A cluster of one character. -/
def ofChar (c : Char) : Cluster := ⟨[c], cellsOf c⟩

/-- A cluster with one more character, which takes no cells of its own. -/
def add (k : Cluster) (c : Char) : Cluster := ⟨c :: k.reversed, k.cells⟩

/-- A cluster with one more cell. -/
def widen (k : Cluster) : Cluster := ⟨k.reversed, k.cells + 1⟩

end Cluster

/-- Cuts a text into clusters, the first of which goes on with `current`; `last` is the last
character before the text that took a cell and has not been widened. -/
def clustersFrom (current : Cluster) (last : Option Char) : List Char → List Cluster
  | [] => [current]
  | c :: cs =>
    if c = joiner then
      match cs with
      | [] => [current.add c]
      | d :: rest => clustersFrom ((current.add c).add d) last rest
    else if c = colourSign && last.any isWidened then clustersFrom (current.add c).widen none cs
    else if cellsOf c = 0 then clustersFrom (current.add c) last cs
    else current :: clustersFrom (.ofChar c) (some c) cs

/-- Cuts a text into clusters.  Every part of it begins with a character that takes a cell, the
first one apart. -/
def clusters : List Char → List Cluster
  | [] => []
  | c :: cs => clustersFrom (.ofChar c) (if cellsOf c = 0 then none else some c) cs

end SourceSurvey.Text
