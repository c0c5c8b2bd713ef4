import SourceSurvey.Value.Misuse

/-!
# Faults of JSON texts

What is wrong with a text that is no JSON, and where: a fault carries the number of characters that
were left when it was met, from which `position`, line and column follow.
-/

namespace SourceSurvey.Json

/-- The ways in which a text fails to be JSON. -/
inductive Flaw where
  | value
  | fieldName
  | colon
  | comma
  | unterminated
  | control
  | escape
  | codeUnit
  | extra
  | byteOrderMark
  deriving DecidableEq

/-- The wording of a flaw. -/
def Flaw.text : Flaw → String
  | .value => "Expecting value"
  | .fieldName => "Expecting property name enclosed in double quotes"
  | .colon => "Expecting ':' delimiter"
  | .comma => "Expecting ',' delimiter"
  | .unterminated => "Unterminated string starting at"
  | .control => "Invalid control character at"
  | .escape => "Invalid \\escape"
  | .codeUnit => "Invalid \\uXXXX escape"
  | .extra => "Extra data"
  | .byteOrderMark => "Unexpected UTF-8 BOM (decode using utf-8-sig)"

/-- Why a text cannot be read: a flaw met with `left` characters to go, or an integer that is too
long. -/
inductive Fault where
  | flaw (what : Flaw) (left : Nat)
  | tooManyDigits (count : Nat)
  deriving DecidableEq

/-- The place of a position in a text, as line and column, both from one. -/
def place (cs : List Char) (position : Nat) : Nat × Nat :=
  let before := cs.take position
  (before.count '\n' + 1, (before.reverse.takeWhile (· != '\n')).length + 1)

/-- A flaw with its place in the text. -/
def describe (cs : List Char) (what : Flaw) (left : Nat) : String :=
  let position := cs.length - left
  let (line, column) := place cs position
  s!"{what.text}: line {line} column {column} (char {position})"

end SourceSurvey.Json
