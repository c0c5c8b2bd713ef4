import SourceSurvey.Value.Number

/-!
# Blocks of braces

`closing` finds the brace that ends the first block of a text: it counts opening braces up and
closing braces down from zero, and stops at the closing brace that brings the count back to zero
after an opening one.  Closing braces before the block count too.
-/

namespace SourceSurvey.Span

/-- The number of characters up to the end of the block, counted on from `depth`; `opened` tells
that an opening brace has been met. -/
def closing (depth : Int) (opened : Bool) : List Char → Option Nat
  | [] => none
  | c :: cs =>
    if c = '\x7b' then (closing (depth + 1) true cs).map (· + 1)
    else if c = '\x7d' then
      if opened && depth - 1 == 0 then some 1 else (closing (depth - 1) opened cs).map (· + 1)
    else (closing depth opened cs).map (· + 1)

/-- The offset behind the block that ends first at or after `start`; `start` when there is none. -/
def blockEnd (text : List Char) (start : Nat) : Nat :=
  match closing 0 false (text.drop start) with
  | some size => start + size
  | none => start

/-- The size of the first block from any integer on: a negative start counts from the end of the
text, and the scan then runs through the whole text once more. -/
def closingFrom (text : List Char) (start : Int) : Except Misuse (Option Nat) :=
  if 0 ≤ start then .ok (closing 0 false (text.drop start.toNat))
  else if Value.greatestSize + 1 < start.natAbs then .error .positionTooLarge
  else if text.length < start.natAbs then .error .textPosition
  else .ok (closing 0 false (text.drop (text.length - start.natAbs) ++ text))

/-- `blockEnd` for a loosely typed start, which has to be an integer and is given back as it came
when there is no block. -/
def blockEndAt (text : List Char) (start : Value) : Except Misuse Value := do
  let position ← start.asInteger
  match ← closingFrom text position with
  | some size => return .int (position + size)
  | none => return start

end SourceSurvey.Span
