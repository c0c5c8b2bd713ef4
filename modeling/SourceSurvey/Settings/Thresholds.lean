import SourceSurvey.Clone.Basic

/-!
# Thresholds

The numbers that steer the search for clones and the recommendation about them.  Values are loosely
typed; `Thresholds.check` accepts them when their comparisons come out right, whatever their kind.
-/

namespace SourceSurvey

/-- The thresholds of a survey. -/
structure Thresholds where
  minSize : Value
  similarity : Value
  maxWindow : Value
  maxKept : Value
  minAnchor : Value
  minMatch : Value
  ranking : Value
  warning : Value
  deriving DecidableEq

namespace Thresholds

/-- The thresholds as a record. -/
def shape : RecordShape :=
  ⟨"ThresholdConfig",
    [("min_fragment_size", .int 6), ("similarity_threshold", .float (.ofRatio false 85 100)),
      ("max_fragment_window", .int 50), ("max_duplicates", .int 50), ("min_anchor_length", .int 5),
      ("min_match_length", .int 3), ("duplicate_ranking", .str "scan"),
      ("duplication_warning_pct", .float (.ofNat 10))]⟩

/-- The thresholds that a filled record holds. -/
def ofFilled (fields : List (String × Value)) : Thresholds :=
  let get (name : String) : Value := (fields.lookup name).getD .null
  ⟨get "min_fragment_size", get "similarity_threshold", get "max_fragment_window",
    get "max_duplicates", get "min_anchor_length", get "min_match_length", get "duplicate_ranking",
    get "duplication_warning_pct"⟩

/-- The thresholds when nothing is set. -/
def default : Thresholds := ofFilled shape.defaults

/-- Refuses a value with a reason when a test holds. -/
def refuseIf (test : Except Misuse Bool) (reason : String) : Except Misuse Unit := do
  if ← test then throw (.invalid reason)

/-- Whether a number lies outside zero and one. -/
def isNoShare (v : Value) : Except Misuse Bool := do
  if ← Value.test .le (.float (Double.zero false)) v then
    return !(← v.test .le (.float (Double.ofNat 1)))
  else return true

/-- Refuses thresholds that make no sense; the first bad one decides. -/
def check (t : Thresholds) : Except Misuse Unit := do
  refuseIf (isNoShare t.similarity) "similarity_threshold must be between 0.0 and 1.0"
  refuseIf (t.minSize.test .lt (.int 1)) "min_fragment_size must be at least 1"
  refuseIf (t.maxWindow.test .lt t.minSize) "max_fragment_window must be >= min_fragment_size"
  refuseIf (t.maxKept.test .lt (.int 1)) "max_duplicates must be at least 1"
  refuseIf
    (do if ← t.minAnchor.test .lt (.int 0) then return true else t.minMatch.test .lt (.int 0))
    "line length thresholds must be non-negative"
  refuseIf (return !(t.ranking.isText "scan" || t.ranking.isText "value"))
    "duplicate_ranking must be 'scan' or 'value'"
  refuseIf (t.warning.test .lt (.int 0)) "duplication_warning_pct must be non-negative"

/-- Checked thresholds from named values. -/
def ofFields (given : List (String × Value)) : Except Misuse Thresholds := do
  let t := ofFilled (← shape.fill given)
  t.check
  return t

/-- The thresholds as an object. -/
def toValue (t : Thresholds) : Value :=
  .obj [("min_fragment_size", t.minSize), ("similarity_threshold", t.similarity),
    ("max_fragment_window", t.maxWindow), ("max_duplicates", t.maxKept),
    ("min_anchor_length", t.minAnchor), ("min_match_length", t.minMatch),
    ("duplicate_ranking", t.ranking), ("duplication_warning_pct", t.warning)]

/-- The limits of the search for clones. -/
def limits (t : Thresholds) : Except Misuse Limits := do
  return ⟨t.minSize, t.similarity, t.maxWindow, t.maxKept, t.minAnchor, t.minMatch,
    ← Limits.rankingOf t.ranking⟩

end Thresholds

end SourceSurvey
