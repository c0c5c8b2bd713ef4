import SourceSurvey.Text.Quoted

/-!
# Faults of TOML texts

What is wrong with a text that is no TOML document, and where: a fault carries the number of
characters that were left when it was met.
-/

namespace SourceSurvey.Toml

/-- A key with its dotted parts. -/
abbrev Path := List String

/-- A key as a parenthesised list of its parts. -/
def pathText : Path → String
  | [part] => "(" ++ Text.quoted part ++ ",)"
  | parts => "(" ++ String.intercalate ", " (parts.map Text.quoted) ++ ")"

/-- The ways in which a text fails to be a TOML document. -/
inductive Flaw where
  | statement
  | value
  | equals
  | lineEnd
  | tableEnd
  | arrayEnd
  | keyPart
  | overwritten
  | declaredTwice (path : Path)
  | frozen (path : Path)
  | redefined (path : Path)
  | unclosedArray
  | unclosedTable
  | expected (mark : String)
  | illegal (c : Char)
  | foundInvalid (c : Char)
  | backslash
  | hexValue
  | notScalar
  | unterminated
  | repeatedKey (key : String)
  | date
  deriving DecidableEq

/-- The wording of a flaw. -/
def Flaw.text : Flaw → String
  | .statement => "Invalid statement"
  | .value => "Invalid value"
  | .equals => "Expected '=' after a key in a key/value pair"
  | .lineEnd => "Expected newline or end of document after a statement"
  | .tableEnd => "Expected ']' at the end of a table declaration"
  | .arrayEnd => "Expected ']]' at the end of an array declaration"
  | .keyPart => "Invalid initial character for a key part"
  | .overwritten => "Cannot overwrite a value"
  | .declaredTwice path => "Cannot declare " ++ pathText path ++ " twice"
  | .frozen path => "Cannot mutate immutable namespace " ++ pathText path
  | .redefined path => "Cannot redefine namespace " ++ pathText path
  | .unclosedArray => "Unclosed array"
  | .unclosedTable => "Unclosed inline table"
  | .expected mark => "Expected " ++ Text.quoted mark
  | .illegal c => "Illegal character " ++ Text.quoted (String.singleton c)
  | .foundInvalid c => "Found invalid character " ++ Text.quoted (String.singleton c)
  | .backslash => "Unescaped '\\' in a string"
  | .hexValue => "Invalid hex value"
  | .notScalar => "Escaped character is not a Unicode scalar value"
  | .unterminated => "Unterminated string"
  | .repeatedKey key => "Duplicate inline table key " ++ Text.quoted key
  | .date => "Invalid date or datetime"

/-- Why a document cannot be read: a flaw met with `left` characters to go, or an integer that is
too long. -/
inductive Fault where
  | flaw (what : Flaw) (left : Nat)
  | tooManyDigits (count : Nat)
  deriving DecidableEq

/-- A flaw with its place in the document. -/
def describe (cs : List Char) (what : Flaw) (left : Nat) : String :=
  if left = 0 then what.text ++ " (at end of document)"
  else
    let before := cs.take (cs.length - left)
    let line := before.count '\n' + 1
    let column := (before.reverse.takeWhile (· != '\n')).length + 1
    s!"{what.text} (at line {line}, column {column})"

end SourceSurvey.Toml
