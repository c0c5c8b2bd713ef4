import SourceSurvey.Text.WordTable

/-!
# Character classes

Character classes outside ASCII are tables of inclusive ranges in ascending order, which `inRanges`
searches.

* `isBlank`: the white space of Unicode, with the four separator controls U+001C to U+001F; `trim`
  takes it off both ends of a text and `squeeze` turns each run of it into a single space;
* `isWord`: the letters and numerals of any script and the low line; combining marks are not among
  them.
-/

namespace SourceSurvey.Text

/-- Whether `n` lies in one of the inclusive ranges, which ascend; the search stops at the first
range above `n`. -/
def inRanges : List (Nat × Nat) → Nat → Bool
  | [], _ => false
  | (lo, hi) :: rest, n => if n < lo then false else n ≤ hi || inRanges rest n

/-! ## Blanks -/

/-- The blank code points, as inclusive ascending ranges. -/
def blankRanges : List (Nat × Nat) :=
  [(0x9, 0xD), (0x1C, 0x20), (0x85, 0x85), (0xA0, 0xA0), (0x1680, 0x1680), (0x2000, 0x200A),
   (0x2028, 0x2029), (0x202F, 0x202F), (0x205F, 0x205F), (0x3000, 0x3000)]

/-- Whether a character is white space. -/
def isBlank (c : Char) : Bool := inRanges blankRanges c.toNat

/-- A text without the blanks at its end. -/
def trimEnd (cs : List Char) : List Char := (cs.reverse.dropWhile isBlank).reverse

/-- A text without the blanks at its two ends. -/
def trim (cs : List Char) : List Char := trimEnd (cs.dropWhile isBlank)

/-- Replaces runs of blanks by one space; `inRun` tells that a run has begun before the text. -/
def squeezeFrom (inRun : Bool) : List Char → List Char
  | [] => []
  | c :: cs =>
    if isBlank c then
      if inRun then squeezeFrom true cs else ' ' :: squeezeFrom true cs
    else c :: squeezeFrom false cs

/-- Replaces every maximal run of blanks by one space. -/
def squeeze (cs : List Char) : List Char := squeezeFrom false cs

/-- `trim` on strings. -/
def trimmed (s : String) : String := String.ofList (trim s.toList)

/-! ## Words -/

/-- Whether a character can be part of a name. -/
def isWord (c : Char) : Bool :=
  if c.toNat < 0x80 then c.isAlphanum || c == '_' else inRanges wordRanges c.toNat

end SourceSurvey.Text
