import SourceSurvey.Value.Order

/-!
# Sorting by a test that may fail

Insertion by bisection: the run at the front of the list is taken as it is (turned round when it
strictly falls), and each later item goes behind all items that it is not less than, found by
halving.  For a total order this is a stable sort.  For a test that is no order, the result is what
these steps give.
-/

namespace SourceSurvey.Sort

variable {α : Type}

/-- Whether `a` is less than `b`, as a test that may fail. -/
abbrev Less (α : Type) := α → α → Except Misuse Bool

/-- The rest of a run behind `last`: each item compares with the one before it as `falling` says. -/
def runBehind (less : Less α) (falling : Bool) (last : α) : List α → Except Misuse (List α × List α)
  | [] => .ok ([], [])
  | a :: rest => do
    if (← less a last) = falling then
      let (run, others) ← runBehind less falling a rest
      return (a :: run, others)
    else return ([], a :: rest)

/-- The run at the front of a list in rising order, and the items behind it. -/
def firstRun (less : Less α) : List α → Except Misuse (List α × List α)
  | [] => .ok ([], [])
  | [a] => .ok ([a], [])
  | a :: b :: rest => do
    let falling ← less b a
    let (run, others) ← runBehind less falling b rest
    return (if falling then (a :: b :: run).reverse else a :: b :: run, others)

/-- The place for an item among sorted ones between `low` and `high`; `steps` halvings are enough
when the distance is below two to that power. -/
def placeFor (less : Less α) (item : α) (sorted : List α) : Nat → Nat → Nat → Except Misuse Nat
  | 0, low, _ => .ok low
  | steps + 1, low, high =>
    if low < high then
      let middle := low + (high - low) / 2
      match sorted[middle]? with
      | none => .ok low
      | some other => do
        if ← less item other then placeFor less item sorted steps low middle
        else placeFor less item sorted steps (middle + 1) high
    else .ok low

/-- Puts an item into a sorted list. -/
def insertInto (less : Less α) (sorted : List α) (item : α) : Except Misuse (List α) := do
  let place ← placeFor less item sorted (sorted.length + 1) 0 sorted.length
  return sorted.take place ++ item :: sorted.drop place

/-- Sorts a list in rising order. -/
def rising (less : Less α) (items : List α) : Except Misuse (List α) := do
  let (run, others) ← firstRun less items
  others.foldlM (insertInto less) run

/-- Sorts a list in falling order; equal items keep their order. -/
def falling (less : Less α) (items : List α) : Except Misuse (List α) :=
  (rising less items.reverse).map List.reverse

end SourceSurvey.Sort
