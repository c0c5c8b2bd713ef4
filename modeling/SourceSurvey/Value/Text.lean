import SourceSurvey.Double.Decimal
import SourceSurvey.Text.Quoted
import SourceSurvey.Value.Basic

/-!
# Texts of values

`Value.text` shows a value to a reader: a text as it is, anything else in the form of `Value.shown`,
in which texts are quoted.
-/

namespace SourceSurvey.Value

/-- The text of a truth value. -/
def boolText (b : Bool) : String := if b then "True" else "False"

mutual

/-- A value with its texts in quotes. -/
def shown : Value → String
  | .null => "None"
  | .bool b => boolText b
  | .int i => toString i
  | .float x => x.text
  | .str s => Text.quoted s
  | .list items => "[" ++ shownList items ++ "]"
  | .obj fields => "\x7b" ++ shownFields fields ++ "\x7d"
  | .moment m => m.text

/-- The items of a list, with commas between. -/
def shownList : List Value → String
  | [] => ""
  | [v] => shown v
  | v :: w :: rest => shown v ++ ", " ++ shownList (w :: rest)

/-- The fields of an object, with commas between. -/
def shownFields : List (String × Value) → String
  | [] => ""
  | [(k, v)] => Text.quoted k ++ ": " ++ shown v
  | (k, v) :: next :: rest => Text.quoted k ++ ": " ++ shown v ++ ", " ++ shownFields (next :: rest)

end

/-- A value as it is shown to a reader. -/
def text : Value → String
  | .str s => s
  | v => shown v

end SourceSurvey.Value
