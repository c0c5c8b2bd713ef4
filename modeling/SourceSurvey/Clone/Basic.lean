import SourceSurvey.SourceFile
import SourceSurvey.Value.Number
import SourceSurvey.Value.Record
import SourceSurvey.Value.Text

/-!
# Clones

Windows of lines that two files have nearly in common.  A clone starts at a line that stands in both
files, the anchor, and reaches as far as both files and the window limit allow; its similarity is
the share of equal lines among those behind the anchor.

* `Limits`: what counts as a clone and how many are kept;
* `Clone`, with `Clone.weight`;
* `walk`, `expand`: the window from one anchor;
* `Found`: clones in the order in which they are found, with the misuse of a limit that ended the
  search.
-/

namespace SourceSurvey

/-- Which clones are kept when there are too many. -/
inductive Ranking where
  | scan
  | value
  deriving DecidableEq

/-- The limits of the search.  The numbers are loosely typed, and a limit is used only when it is
needed. -/
structure Limits where
  minSize : Value
  similarity : Value
  maxWindow : Value
  maxKept : Value
  minAnchor : Value
  minMatch : Value
  ranking : Ranking

namespace Limits

/-- The limits as a record. -/
def shape : RecordShape :=
  ⟨"DuplicationDetector",
    [("min_fragment_size", .int 6), ("similarity_threshold", .float (.ofRatio false 85 100)),
      ("max_window", .int 50), ("max_duplicates", .int 50), ("min_anchor_length", .int 5),
      ("min_match_length", .int 3), ("ranking", .str "scan")]⟩

/-- The ranking that a value names. -/
def rankingOf (v : Value) : Except Misuse Ranking :=
  if v.isText "scan" then .ok .scan
  else if v.isText "value" then .ok .value
  else .error (.invalid ("Unknown ranking: " ++ v.shown))

/-- Limits from named values. -/
def ofFields (given : List (String × Value)) : Except Misuse Limits := do
  let fields ← shape.fill given
  let get (name : String) : Value := (fields.lookup name).getD .null
  let ranking ← rankingOf (get "ranking")
  return ⟨get "min_fragment_size", get "similarity_threshold", get "max_window",
    get "max_duplicates", get "min_anchor_length", get "min_match_length", ranking⟩

/-- The least size of a clone as an integer. -/
def leastSize (limits : Limits) : Except Misuse Int :=
  match limits.minSize with
  | .bool b => .ok (if b then 1 else 0)
  | .int i => .ok i
  | .float _ => .error (.notInteger .float)
  | v => .error (.noDifference .int v.kind)

/-- Whether a length is below the least length of an anchor. -/
def isShortAnchor (limits : Limits) (length : Nat) : Except Misuse Bool :=
  Value.test .lt (.ofNat length) limits.minAnchor

/-- Whether a length is above that of lines which never match. -/
def isLongMatch (limits : Limits) (length : Nat) : Except Misuse Bool :=
  Value.test .gt (.ofNat length) limits.minMatch

/-- Whether a window may grow beyond a size. -/
def mayGrow (limits : Limits) (size : Nat) : Except Misuse Bool :=
  Value.test .lt (.ofNat size) limits.maxWindow

/-- Whether a similarity is too low. -/
def isUnlike (limits : Limits) (similarity : Double) : Except Misuse Bool :=
  Value.test .lt (.float similarity) limits.similarity

/-- Whether one more clone may be kept. -/
def hasRoom (limits : Limits) (kept : Nat) : Except Misuse Bool :=
  Value.test .lt (.ofNat kept) limits.maxKept

end Limits

/-- A line in the form in which lines are compared. -/
abbrev Line := List Char

/-- A file with its lines in the form in which they are compared. -/
structure NormalFile where
  path : String
  lines : List Line
  deriving DecidableEq

/-- A file in the form in which it is compared. -/
def SourceFile.normal (f : SourceFile) : NormalFile := ⟨f.path, f.lines.map normalLine⟩

/-- A range of lines, from one, with both ends in it. -/
structure Range where
  file : String
  first : Int
  last : Int
  deriving DecidableEq

/-- Two ranges of one size that are nearly the same. -/
structure Clone where
  first : Range
  second : Range
  size : Nat
  similarity : Double
  deriving DecidableEq

/-- The size of a clone weighted by its similarity. -/
def Clone.weight (c : Clone) : Double := (Double.ofNat c.size).mul c.similarity

namespace Clone

/-- How far a window has grown: its size and the number of equal lines behind the anchor. -/
structure Window where
  size : Nat
  equal : Nat
  deriving DecidableEq

/-- The share of equal lines behind the anchor. -/
def Window.similarity (w : Window) : Double :=
  if w.size = 1 then Double.zero false else Double.ofRatio false w.equal (w.size - 1)

/-- Grows a window along the lines that follow the anchor in the two files. -/
def walk (limits : Limits) (w : Window) : List Line → List Line → Except Misuse Window
  | a :: as, b :: bs => do
    if ← limits.mayGrow w.size then
      let counts ← if a = b then limits.isLongMatch a.length else pure false
      walk limits ⟨w.size + 1, w.equal + (if counts then 1 else 0)⟩ as bs
    else return w
  | _, _ => return w

/-- The lines behind a position.  A negative position counts from the end, and the lines then go on
with the whole file; none when it lies before the start. -/
def linesAfter (lines : List Line) (position : Int) : Option (List Line) :=
  if 0 ≤ position then some (lines.drop (position.toNat + 1))
  else
    let start := lines.length + position + 1
    if 0 ≤ start then some (lines.drop start.toNat ++ lines) else none

/-- The window from an anchor, given the lines behind it in the first file. -/
def window (limits : Limits) (as : List Line) (lines : List Line) (position : Int) :
    Except Misuse Window :=
  match linesAfter lines position with
  | some bs => walk limits ⟨1, 0⟩ as bs
  | none => do
    if !as.isEmpty && (← limits.mayGrow 1) then throw .listPosition else return ⟨1, 0⟩

/-- The clone from an anchor, if its window is large and similar enough. -/
def expand (limits : Limits) (least : Int) (a b : NormalFile) (i : Nat) (as : List Line) (j : Int) :
    Except Misuse (Option Clone) := do
  let w ← window limits as b.lines j
  if (w.size : Int) < least then return none
  if ← limits.isUnlike w.similarity then return none
  return some ⟨⟨a.path, i + 1, i + w.size⟩, ⟨b.path, j + 1, j + w.size⟩, w.size, w.similarity⟩

end Clone

/-- Clones in the order in which they are found, and the misuse that ended the search early. -/
structure Found where
  clones : List Clone
  stopped : Option Misuse

namespace Found

/-- A search that finds nothing. -/
def nothing : Found := ⟨[], none⟩

/-- A search that ends at once. -/
def stop (m : Misuse) : Found := ⟨[], some m⟩

/-- Goes on with another search unless the first one ended early. -/
def andThen (x : Found) (y : Unit → Found) : Found :=
  match x.stopped with
  | some _ => x
  | none => ⟨x.clones ++ (y ()).clones, (y ()).stopped⟩

/-- A search for one clone. -/
def ofExpand : Except Misuse (Option Clone) → Found
  | .ok (some c) => ⟨[c], none⟩
  | .ok none => nothing
  | .error m => stop m

/-- One search after the other. -/
def sequence {α : Type} (search : α → Found) : List α → Found
  | [] => nothing
  | a :: rest => (search a).andThen fun _ => sequence search rest

end Found

end SourceSurvey
