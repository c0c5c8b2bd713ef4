import SourceSurvey.Double.Decimal
import SourceSurvey.Text.Quoted
import SourceSurvey.Value.Number

/-!
# Writing JSON

`write indent v` is the JSON text of a value in ASCII: characters outside the printed ones are
written as code units, those beyond the basic plane as pairs.  Without an indent the text is one
line with a space after each comma and colon; with one, each item stands on a line of its own,
indented once more than what it belongs to.  Empty lists and objects take no lines.

`dump` is the same for an indent from outside, which has to be a number that a text can be repeated
by.
-/

namespace SourceSurvey.Json

/-- A code unit with four hexadecimal digits. -/
def unitText (unit : Nat) : List Char := '\\' :: 'u' :: Text.hexPadded 4 unit

/-- A character inside a string. -/
def escapedChar (c : Char) : List Char :=
  match c with
  | '"' => ['\\', '"']
  | '\\' => ['\\', '\\']
  | '\n' => ['\\', 'n']
  | '\r' => ['\\', 'r']
  | '\t' => ['\\', 't']
  | '\x08' => ['\\', 'b']
  | '\x0c' => ['\\', 'f']
  | _ =>
    if 0x20 ≤ c.toNat && c.toNat < 0x7F then [c]
    else if c.toNat < 0x10000 then unitText c.toNat
    else
      let above := c.toNat - 0x10000
      unitText (0xD800 + above / 0x400) ++ unitText (0xDC00 + above % 0x400)

/-- A string in its quotes. -/
def stringText (s : String) : List Char := '"' :: (s.toList.flatMap escapedChar ++ ['"'])

/-- A double; the numbers that are not finite have names. -/
def doubleText : Double → String
  | .nan => "NaN"
  | .infinite s => if s then "-Infinity" else "Infinity"
  | x => x.text

/-- The line break before an item at a level, if items stand on lines of their own. -/
def lineBreak (indent : Option Nat) (level : Nat) : List Char :=
  match indent with
  | none => []
  | some width => '\n' :: List.replicate (width * level) ' '

/-- What stands between two items at a level. -/
def separator (indent : Option Nat) (level : Nat) : List Char :=
  match indent with
  | none => [',', ' ']
  | some _ => ',' :: lineBreak indent level

mutual

/-- The text of a value at a level. -/
def valueText (indent : Option Nat) (level : Nat) : Value → List Char
  | .null => "null".toList
  | .bool b => (if b then "true" else "false").toList
  | .int i => (toString i).toList
  | .float x => (doubleText x).toList
  | .str s => stringText s
  | .moment m => stringText m.text
  | .list items =>
    if items.isEmpty then ['[', ']']
    else
      '[' :: (lineBreak indent (level + 1) ++ itemsText indent (level + 1) items ++
        lineBreak indent level ++ [']'])
  | .obj fields =>
    if fields.isEmpty then ['\x7b', '\x7d']
    else
      '\x7b' :: (lineBreak indent (level + 1) ++ fieldsText indent (level + 1) fields ++
        lineBreak indent level ++ ['\x7d'])

/-- The texts of the items of a list. -/
def itemsText (indent : Option Nat) (level : Nat) : List Value → List Char
  | [] => []
  | [v] => valueText indent level v
  | v :: w :: rest =>
    valueText indent level v ++ separator indent level ++ itemsText indent level (w :: rest)

/-- The texts of the fields of an object. -/
def fieldsText (indent : Option Nat) (level : Nat) : List (String × Value) → List Char
  | [] => []
  | [(k, v)] => stringText k ++ ':' :: ' ' :: valueText indent level v
  | (k, v) :: next :: rest =>
    stringText k ++ ':' :: ' ' :: (valueText indent level v ++ separator indent level ++
      fieldsText indent level (next :: rest))

end

/-- The JSON text of a value; an indent below zero counts as zero. -/
def write (indent : Option Int) (v : Value) : String :=
  String.ofList (valueText (indent.map Int.toNat) 0 v)

/-- Whether an indent, if there is one, is a number that a text can be repeated by. -/
def isIndent (indent : Option Int) : Bool :=
  indent.all fun n => -Value.greatestSize - 1 ≤ n && n ≤ Value.greatestSize

/-- Writes a value with an indent that may be out of range. -/
def dump (indent : Option Int) (v : Value) : Except Misuse String :=
  if isIndent indent then .ok (write indent v) else .error .sizeTooLarge

end SourceSurvey.Json
