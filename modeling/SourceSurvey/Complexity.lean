import SourceSurvey.SourceFile
import SourceSurvey.Span.Basic
import SourceSurvey.Value.Order

/-!
# Branching

The complexity of a text is one more than the number of its decision points: the words of `keywords`
that stand alone, the pairs `&&` and `||`, and the question marks.  A file is rated by the mean of
its spans.

* `countWord`, `countPairs`, `complexity`;
* `Rating`, `rate`, `Rating.ofDouble`;
* `FileScore`, `score`.
-/

namespace SourceSurvey.Complexity

/-- Whether the text behind a word does not go on with a word character. -/
def endsWord : List Char → Bool
  | [] => true
  | c :: _ => !Text.isWord c

/-- Counts the places where a word stands alone; `inWord` tells that a word character comes
before. -/
def countWord (word : List Char) (inWord : Bool) : List Char → Nat
  | [] => 0
  | c :: cs =>
    let here := !inWord && word.isPrefixOf (c :: cs) && endsWord ((c :: cs).drop word.length)
    (if here then 1 else 0) + countWord word (Text.isWord c) cs

/-- Counts the pairs of a character, from left to right without overlap. -/
def countPairs (mark : Char) : List Char → Nat
  | [] => 0
  | [_] => 0
  | a :: b :: cs =>
    if a = mark && b = mark then 1 + countPairs mark cs else countPairs mark (b :: cs)

/-- The words that branch. -/
def keywords : List (List Char) :=
  ["if", "else", "for", "while", "switch", "case", "catch"].map String.toList

/-- One more than the decision points of a text. -/
def complexity (text : List Char) : Nat :=
  1 + ((keywords.map fun word => countWord word false text).foldr (· + ·) 0 + countPairs '&' text +
    countPairs '|' text + text.count '?')

/-- The four ratings. -/
inductive Rating where
  | low
  | medium
  | high
  | veryHigh
  deriving DecidableEq

/-- The name of a rating. -/
def Rating.text : Rating → String
  | .low => "low"
  | .medium => "medium"
  | .high => "high"
  | .veryHigh => "very-high"

/-- The rating of an average, by the bounds 5, 10 and 20, which belong to the lower rating. -/
def rate (average : Value) : Except Misuse Rating := do
  if ← average.test .le (.int 5) then return .low
  if ← average.test .le (.int 10) then return .medium
  if ← average.test .le (.int 20) then return .high
  return .veryHigh

/-- The rating of a number. -/
def Rating.ofDouble (average : Double) : Rating :=
  let within (bound : Int) : Bool := Comparison.ofNumbers .le (.float average) (.int bound)
  if within 5 then .low else if within 10 then .medium else if within 20 then .high else .veryHigh

/-- The score of one span. -/
structure FunctionScore where
  name : List Char
  complexity : Nat
  line : Nat
  deriving DecidableEq

/-- The scores of a file. -/
structure FileScore where
  file : String
  average : Double
  functions : List FunctionScore
  rating : Rating
  deriving DecidableEq

/-- Scores a file by its spans of the given shapes and their mean complexity, zero when it has no
spans. -/
def score (shapes : List Span.Header) (f : SourceFile) (mean : List Nat → Double := Double.mean) :
    FileScore :=
  let functions := (Span.spans shapes f.content.toList).map fun s =>
    ⟨s.name, complexity s.text, s.line⟩
  let average :=
    if functions.isEmpty then Double.zero false else mean (functions.map FunctionScore.complexity)
  ⟨f.path, average, functions, .ofDouble average⟩

end SourceSurvey.Complexity
