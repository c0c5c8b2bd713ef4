import SourceSurvey.Clone.Basic
import SourceSurvey.Trace

/-!
# The search for clones

`search` goes through all pairs of files with different paths, in order, and finds the clones of
each pair by the anchors of its first file.  `detect` counts the lines that clones cover in their
first file and keeps some of the clones: the first ones found, or those of greatest weight.

* `positions`: where a line stands in a file;
* `comparePair`, `search`;
* `Entry`, `push`, `ranked`: clones with their ranks, in a heap;
* `keepFirst`, `keepBest`, `Tally`, `detect`.
-/

namespace SourceSurvey.Clone

/-- The positions of a line among the lines of which the first has the number `start`. -/
def positionsFrom (start : Int) (line : Line) : List Line → List Int
  | [] => []
  | l :: rest => if l = line then start :: positionsFrom (start + 1) line rest
    else positionsFrom (start + 1) line rest

/-- The positions of a line at which a clone of the least size can start. -/
def positions (least : Int) (lines : List Line) (line : Line) : List Int :=
  positionsFrom 0 line (lines.take (lines.length - least + 1).toNat)

/-- Finds the clones of two files from the anchors at and behind the line with number `i`. -/
def compareFrom (limits : Limits) (least : Int) (a b : NormalFile) (index : Line → List Int)
    (i : Nat) : List Line → Found
  | [] => if 1 ≤ least then .nothing else .stop .listPosition
  | anchor :: as =>
    if (a.lines.length : Int) - least < i then .nothing
    else
      match limits.isShortAnchor anchor.length with
      | .error m => .stop m
      | .ok true => compareFrom limits least a b index (i + 1) as
      | .ok false =>
        (Found.sequence (fun j => .ofExpand (expand limits least a b i as j))
          (index anchor)).andThen
          fun _ => compareFrom limits least a b index (i + 1) as

/-- Finds the clones of two files.  Without an index of its own, the second file is indexed by its
lines, which needs a least size of at least one. -/
def comparePair (limits : Limits) (index : Option (Line → List Int)) (a b : NormalFile) : Found :=
  if a.path = b.path then .nothing
  else
    match limits.leastSize with
    | .error m => .stop m
    | .ok least =>
      match index with
      | some index => compareFrom limits least a b index 0 a.lines
      | none =>
        if 1 ≤ least then compareFrom limits least a b (positions least b.lines) 0 a.lines
        else .stop .listPosition

/-- Finds the clones of all pairs of files. -/
def search (limits : Limits) : List NormalFile → Found
  | [] => .nothing
  | a :: rest => (Found.sequence (comparePair limits none a) rest).andThen fun _ =>
    search limits rest

/-- The lines that a clone covers in its first file. -/
def covered (c : Clone) : List (String × Int) :=
  (List.range c.size).map fun (k : Nat) => (c.first.file, c.first.first + (k : Int))

/-- A clone with its rank: its weight and its turn, which counts down. -/
structure Entry where
  weight : Double
  turn : Int
  clone : Clone
  deriving DecidableEq

namespace Entry

/-- The entry of a clone before which `count` others were found. -/
def ofClone (count : Nat) (c : Clone) : Entry := ⟨c.weight, -(count : Int), c⟩

/-- The order of two ranks: by weight and, at the same weight, by turn. -/
def rank? (x y : Entry) : Option Ordering :=
  (x.weight.order? y.weight).map fun o => o.then (compare x.turn y.turn)

/-- Whether an entry has the lower rank. -/
def ranksBelow (x y : Entry) : Bool := x.rank? y == some .lt

/-- Whether an entry is below another.  At the same rank their clones would decide, but clones have
no order. -/
def below (x y : Entry) : Except Misuse Bool :=
  if x.rank? y = some .eq ∧ x.clone ≠ y.clone then .error .unorderedClones else .ok (x.ranksBelow y)

end Entry

/-- Adds an entry to a heap, which is kept with the lowest rank in front. -/
def push (e : Entry) : List Entry → Except Misuse (List Entry)
  | [] => return [e]
  | x :: rest => do
    if ← e.below x then return e :: x :: rest else return x :: (← push e rest)

/-- Keeps a clone as long as there is room. -/
def keepFirst (limits : Limits) (kept : List Clone) (c : Clone) : Except Misuse (List Clone) := do
  if ← limits.hasRoom kept.length then return kept ++ [c] else return kept

/-- Keeps an entry if there is room or if its rank is above the lowest one, which then goes. -/
def keepBest (limits : Limits) (heap : List Entry) (e : Entry) : Except Misuse (List Entry) := do
  if ← limits.hasRoom heap.length then push e heap
  else
    match heap with
    | [] => throw .listPosition
    | least :: rest => if least.ranksBelow e then push e rest else return heap

/-- The clones of a heap from the highest rank to the lowest. -/
def ranked (heap : List Entry) : List Clone :=
  (heap.mergeSort fun x y => !x.ranksBelow y).map (·.clone)

/-- What has been counted: the covered lines, the clones or entries that are kept, and the number of
all clones. -/
structure Tally where
  lines : List (String × Int)
  kept : List Clone
  heap : List Entry
  count : Nat

namespace Tally

/-- Nothing counted. -/
def empty : Tally := ⟨[], [], [], 0⟩

/-- Counts one clone, and keeps it as the ranking says. -/
def add (limits : Limits) (t : Tally) (c : Clone) : Except Misuse Tally := do
  let lines := c.covered.foldl (fun lines line => lines.insert line) t.lines
  match limits.ranking with
  | .scan => return ⟨lines, ← keepFirst limits t.kept c, t.heap, t.count + 1⟩
  | .value => return ⟨lines, t.kept, ← keepBest limits t.heap (.ofClone t.count c), t.count + 1⟩

/-- The clones that are kept in the end. -/
def result (limits : Limits) (t : Tally) : List Clone :=
  match limits.ranking with
  | .scan => t.kept
  | .value => ranked t.heap

end Tally

/-- Counts clones one after the other. -/
def count (limits : Limits) (clones : List Clone) : Except Misuse Tally :=
  clones.foldlM (Tally.add limits) .empty

end Clone

/-- The clones of a project: those that are kept, the number of covered lines, and their share. -/
structure Duplication where
  kept : List Clone
  lines : Nat
  percentage : Double

/-- Finds and counts the clones of a project. -/
def Duplication.detect (limits : Limits) (files : List SourceFile) : Traced Duplication := do
  let normal := files.map SourceFile.normal
  let total := (normal.map (·.lines.length)).foldr (· + ·) 0
  let found := Clone.search limits normal
  let tally : Clone.Tally ← Clone.count limits found.clones
  match found.stopped with
  | some m => Traced.fail (.misuse m)
  | none =>
    let kept := tally.result limits
    if kept.length < tally.count then
      Traced.log .debug s!"Duplicate fragments capped: {tally.count} found, {kept.length} kept"
    let share :=
      if total = 0 then Double.zero false
      else (Double.ofRatio false tally.lines.length total).mul (Double.ofNat 100)
    return ⟨kept, tally.lines.length, share⟩

end SourceSurvey
