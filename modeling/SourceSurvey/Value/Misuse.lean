import SourceSurvey.Text.Numeral
import SourceSurvey.Text.Quoted
import SourceSurvey.Value.Basic

/-!
# Misuse of values

What goes wrong when a loosely typed value is used as something that it is not.  A `Misuse` is a
cause; `Misuse.message` gives its wording and `Misuse.label` the name of its class, under which it
is reported.
-/

namespace SourceSurvey

/-- The four comparisons by order. -/
inductive Comparison where
  | lt
  | le
  | gt
  | ge
  deriving DecidableEq

/-- The sign of a comparison. -/
def Comparison.sign : Comparison → String
  | .lt => "<"
  | .le => "<="
  | .gt => ">"
  | .ge => ">="

/-- Why a value cannot be used as asked. -/
inductive Misuse where
  /-- Two values of these kinds have no order. -/
  | unordered (how : Comparison) (left right : Kind)
  /-- Two clones have no order. -/
  | unorderedClones
  /-- The value has no members to run through. -/
  | notIterable (kind : Kind)
  /-- The value has no members to search. -/
  | notSearchable (kind : Kind)
  /-- The value has no positions. -/
  | notIndexable (kind : Kind)
  /-- A text is asked for a field. -/
  | textField
  /-- A list is asked for a field. -/
  | listField
  /-- The value has no operation of this name. -/
  | noOperation (kind : Kind) (name : String)
  /-- An object lacks a field. -/
  | missingField (name : String)
  /-- The value cannot be a member of a set. -/
  | unhashable (kind : Kind)
  /-- An item of a list of texts to be joined is no text. -/
  | joinedItem (position : Nat) (kind : Kind)
  /-- The value has no length. -/
  | unsized (kind : Kind)
  /-- The value is no number and no numeral. -/
  | notNumeric (kind : Kind)
  /-- The text is no integer. -/
  | badInteger (text : String)
  /-- The text is no decimal number. -/
  | badDecimal (text : String)
  /-- An integer numeral is too long to be read. -/
  | tooManyDigits (count : Nat)
  /-- A NaN has no integer part. -/
  | integerOfNaN
  /-- An infinity has no integer part. -/
  | integerOfInfinity
  /-- The integer is beyond the doubles. -/
  | integerTooLarge
  /-- The integer is beyond the sizes of sequences. -/
  | sizeTooLarge
  /-- The integer is beyond the positions of sequences. -/
  | positionTooLarge
  /-- A position is outside a list. -/
  | listPosition
  /-- A position is outside a text. -/
  | textPosition
  /-- A text is to be written as a number. -/
  | numberFormat (code : Char) (kind : Kind)
  /-- The value has no number format at all. -/
  | noFormat (kind : Kind)
  /-- A sequence is to be repeated, but not by an integer. -/
  | repeatedBy (kind : Kind)
  /-- Two values of these kinds have no product. -/
  | noProduct (left right : Kind)
  /-- Two values of these kinds have no difference. -/
  | noDifference (left right : Kind)
  /-- A text is needed. -/
  | notText (kind : Kind)
  /-- An integer is needed. -/
  | notInteger (kind : Kind)
  /-- A path is needed. -/
  | notPath (kind : Kind)
  /-- The wording of a fault is no text. -/
  | wordingNotText (kind : Kind)
  /-- A record has no field of this name. -/
  | unknownField (record name : String)
  /-- A record is given its own place as a field. -/
  | repeatedArgument (record name : String)
  /-- A record lacks required fields. -/
  | missingArguments (record : String) (names : List String)
  /-- A record is given too many values: the least and greatest number it takes, and the number
  given. -/
  | surplusArguments (record : String) (least greatest given : Nat)
  /-- A value is outside what is allowed; the text says what that is. -/
  | invalid (text : String)
  deriving DecidableEq

namespace Misuse

/-- The name of the class of a misuse. -/
def label : Misuse → String
  | .noOperation _ _ => "AttributeError"
  | .missingField _ => "KeyError"
  | .positionTooLarge | .listPosition | .textPosition => "IndexError"
  | .integerOfInfinity | .integerTooLarge | .sizeTooLarge => "OverflowError"
  | .badInteger _ | .badDecimal _ | .tooManyDigits _ | .integerOfNaN | .numberFormat _ _
  | .invalid _ => "ValueError"
  | _ => "TypeError"

/-- Names in quotes, joined by commas with "and" before the last. -/
def enumeration (names : List String) : String :=
  match names.map Text.quoted with
  | [] => ""
  | [a] => a
  | [a, b] => a ++ " and " ++ b
  | several => String.intercalate ", " several.dropLast ++ ", and " ++ several.getLast?.getD ""

/-- The wording of a misuse. -/
def message : Misuse → String
  | .unordered how a b =>
    s!"'{how.sign}' not supported between instances of '{a.name}' and '{b.name}'"
  | .unorderedClones =>
    "'<' not supported between instances of 'DuplicateFragment' and 'DuplicateFragment'"
  | .notIterable k => s!"'{k.name}' object is not iterable"
  | .notSearchable k => s!"argument of type '{k.name}' is not iterable"
  | .notIndexable k => s!"'{k.name}' object is not subscriptable"
  | .textField => "string indices must be integers, not 'str'"
  | .listField => "list indices must be integers or slices, not str"
  | .noOperation k name => s!"'{k.name}' object has no attribute '{name}'"
  | .missingField name => Text.quoted name
  | .unhashable k => s!"unhashable type: '{k.name}'"
  | .joinedItem n k => s!"sequence item {n}: expected str instance, {k.name} found"
  | .unsized k => s!"object of type '{k.name}' has no len()"
  | .notNumeric k =>
    s!"int() argument must be a string, a bytes-like object or a real number, not '{k.name}'"
  | .badInteger text =>
    "invalid literal for int() with base 10: " ++ String.ofList ((Text.quoted text).toList.take 200)
  | .badDecimal text => "could not convert string to float: " ++ Text.quoted text
  | .tooManyDigits n =>
    s!"Exceeds the limit ({Text.digitLimit} digits) for integer string conversion: " ++
      s!"value has {n} digits; use sys.set_int_max_str_digits() to increase the limit"
  | .integerOfNaN => "cannot convert float NaN to integer"
  | .integerOfInfinity => "cannot convert float infinity to integer"
  | .integerTooLarge => "int too large to convert to float"
  | .sizeTooLarge | .positionTooLarge => "cannot fit 'int' into an index-sized integer"
  | .listPosition => "list index out of range"
  | .textPosition => "string index out of range"
  | .numberFormat code k => s!"Unknown format code '{code}' for object of type '{k.name}'"
  | .noFormat k => s!"unsupported format string passed to {k.name}.__format__"
  | .repeatedBy k => s!"can't multiply sequence by non-int of type '{k.name}'"
  | .noProduct a b => s!"unsupported operand type(s) for *: '{a.name}' and '{b.name}'"
  | .noDifference a b => s!"unsupported operand type(s) for -: '{a.name}' and '{b.name}'"
  | .notText k => s!"expected string or bytes-like object, got '{k.name}'"
  | .notInteger k => s!"'{k.name}' object cannot be interpreted as an integer"
  | .notPath k => s!"expected str, bytes or os.PathLike object, not {k.name}"
  | .wordingNotText k => s!"__str__ returned non-string (type {k.name})"
  | .unknownField record name => s!"{record}() got an unexpected keyword argument '{name}'"
  | .repeatedArgument record name => s!"{record}() got multiple values for argument '{name}'"
  | .missingArguments record names =>
    let noun := if names.length = 1 then "argument" else "arguments"
    s!"{record}() missing {names.length} required positional {noun}: {enumeration names}"
  | .surplusArguments record least greatest given =>
    let range := if least = greatest then s!"{least}" else s!"from {least} to {greatest}"
    s!"{record}() takes {range} positional arguments but {given} were given"
  | .invalid text => text

end Misuse

end SourceSurvey
