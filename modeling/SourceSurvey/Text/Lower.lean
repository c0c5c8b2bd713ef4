import SourceSurvey.Text.Class
import SourceSurvey.Text.LowerTable

/-!
# Lower case

`lower` is the full lower case of a text: the one-to-one mappings of `lowerRuns`, U+0130 as two code
points, and a capital sigma as the final form at the end of a word.
-/

namespace SourceSurvey.Text

/-- The lower case form of a code point that has a one-to-one mapping, and the code point
otherwise. -/
def lowerCode : List (Nat × Nat × Nat × Int) → Nat → Nat
  | [], n => n
  | (first, last, step, shift) :: rest, n =>
    if n < first then n
    else if n ≤ last then
      if (n - first) % step = 0 then (n + shift).toNat else n
    else lowerCode rest n

/-- The lower case form of one character outside any context. -/
def lowerChar (c : Char) : Char :=
  if c.toNat < 0x80 then c.toLower else Char.ofNat (lowerCode lowerRuns c.toNat)

/-- Whether the final sigma rule looks through a character. -/
def isCaseIgnorable (c : Char) : Bool := inRanges caseIgnorableRanges c.toNat

/-- Whether the first character that the final sigma rule does not look through carries case. -/
def meetsCased (cs : List Char) : Bool :=
  match cs.dropWhile isCaseIgnorable with
  | [] => false
  | c :: _ => inRanges casedRanges c.toNat

/-- Lower case of a text; `before` holds what precedes it, nearest character first. -/
def lowerAfter (before : List Char) : List Char → List Char
  | [] => []
  | c :: after =>
    let here :=
      if c = 'Σ' then [if meetsCased before && !meetsCased after then 'ς' else 'σ']
      else if c = 'İ' then ['i', '̇']
      else [lowerChar c]
    here ++ lowerAfter (c :: before) after

/-- The full lower case of a text. -/
def lower (cs : List Char) : List Char := lowerAfter [] cs

/-- `lower` on strings. -/
def lowered (s : String) : String := String.ofList (lower s.toList)

end SourceSurvey.Text
