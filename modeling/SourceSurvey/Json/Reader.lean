import SourceSurvey.Json.Fault
import SourceSurvey.Value.Access

/-!
# Reading JSON

A reader for JSON texts that also takes the words `NaN`, `Infinity` and `-Infinity`.  Numbers with a
fraction or an exponent are doubles and all others integers; of a field that occurs twice the first
place and the last value count.

* `readString`, `readNumber`, `readValue` and its companions `readItems` and `readFields` take a
  part of the text and return what follows it;
* `read` takes a whole text.

`readValue` and its companions are bounded by a number of steps; the length of the text is enough.
-/

namespace SourceSurvey.Json

/-- White space between the parts of a JSON text. -/
def isSpace (c : Char) : Bool := c == ' ' || c == '\t' || c == '\n' || c == '\r'

/-- A text without the white space in front. -/
def skipSpace (cs : List Char) : List Char := cs.dropWhile isSpace

/-- The value of a hexadecimal digit. -/
def hexDigit? (c : Char) : Option Nat :=
  if '0' ≤ c && c ≤ '9' then some (c.toNat - '0'.toNat)
  else if 'a' ≤ c && c ≤ 'f' then some (c.toNat - 'a'.toNat + 10)
  else if 'A' ≤ c && c ≤ 'F' then some (c.toNat - 'A'.toNat + 10)
  else none

/-- The code unit that four hexadecimal digits spell. -/
def codeUnit? (a b c d : Char) : Option Nat := do
  let a ← hexDigit? a
  let b ← hexDigit? b
  let c ← hexDigit? c
  let d ← hexDigit? d
  return ((a * 16 + b) * 16 + c) * 16 + d

/-- Whether a code unit is the first of a pair. -/
def isLeading (unit : Nat) : Bool := 0xD800 ≤ unit && unit < 0xDC00

/-- Whether a code unit is the second of a pair. -/
def isTrailing (unit : Nat) : Bool := 0xDC00 ≤ unit && unit < 0xE000

/-- The code point of a pair of code units. -/
def joinUnits (leading trailing : Nat) : Nat :=
  0x10000 + (leading - 0xD800) * 0x400 + (trailing - 0xDC00)

/-- The character of a code unit; one half of a pair alone has none. -/
def unitChar (unit : Nat) : Char :=
  if isLeading unit || isTrailing unit then '\ufffd' else Char.ofNat unit

/-- The character that a letter after a backslash stands for. -/
def escaped? (c : Char) : Option Char :=
  match c with
  | '"' => some '"'
  | '\\' => some '\\'
  | '/' => some '/'
  | 'b' => some '\x08'
  | 'f' => some '\x0c'
  | 'n' => some '\n'
  | 'r' => some '\r'
  | 't' => some '\t'
  | _ => none

/-- The characters of a string so far, last first; a first half of a pair that waits for its second
half is kept apart. -/
structure Collected where
  waiting : Option Nat
  done : List Char

namespace Collected

/-- The characters, where a half that still waits stands alone. -/
def settled (s : Collected) : List Char :=
  match s.waiting with
  | some unit => unitChar unit :: s.done
  | none => s.done

/-- Adds a character. -/
def push (s : Collected) (c : Char) : Collected := ⟨none, c :: s.settled⟩

/-- Adds a code unit. -/
def pushUnit (s : Collected) (unit : Nat) : Collected :=
  match s.waiting, isTrailing unit with
  | some leading, true => ⟨none, Char.ofNat (joinUnits leading unit) :: s.done⟩
  | _, _ => if isLeading unit then ⟨some unit, s.settled⟩ else s.push (unitChar unit)

end Collected

/-- Reads the rest of a string up to its closing quote.  `opening` is the number of characters left
at the opening quote.  At least one character has to follow the digits of a code unit. -/
def readChars (opening : Nat) (done : Collected) : List Char → Except Fault (String × List Char)
  | [] => .error (.flaw .unterminated opening)
  | '"' :: rest => .ok (String.ofList done.settled.reverse, rest)
  | '\\' :: 'u' :: a :: b :: c :: d :: rest =>
    match codeUnit? a b c d, rest.isEmpty with
    | some unit, false => readChars opening (done.pushUnit unit) rest
    | _, _ => .error (.flaw .codeUnit (rest.length + 5))
  | '\\' :: 'u' :: rest => .error (.flaw .codeUnit (rest.length + 1))
  | ['\\'] => .error (.flaw .unterminated opening)
  | '\\' :: c :: rest =>
    match escaped? c with
    | some e => readChars opening (done.push e) rest
    | none => .error (.flaw .escape (rest.length + 2))
  | c :: rest =>
    if c.toNat < 0x20 then .error (.flaw .control (rest.length + 1))
    else readChars opening (done.push c) rest

/-- Reads a string after its opening quote. -/
def readString (cs : List Char) : Except Fault (String × List Char) :=
  readChars (cs.length + 1) ⟨none, []⟩ cs

/-- The digits of a whole number in front: a zero alone, or a run that starts with another digit. -/
def splitWhole (cs : List Char) : Option (List Nat × List Char) :=
  match cs with
  | '0' :: rest => some ([0], rest)
  | c :: _ => if c.isDigit then some (Text.digitSpan cs) else none
  | [] => none

/-- A point with at least one digit after it, and what follows. -/
def splitFraction (cs : List Char) : Option (List Nat) × List Char :=
  match cs with
  | '.' :: rest =>
    match Text.digitSpan rest with
    | ([], _) => (none, cs)
    | (ds, rest) => (some ds, rest)
  | _ => (none, cs)

/-- Reads the longest number in front. -/
def readNumber (cs : List Char) : Except Fault (Value × List Char) :=
  let (negative, body) :=
    match cs with
    | '-' :: rest => (true, rest)
    | _ => (false, cs)
  match splitWhole body with
  | none => .error (.flaw .value cs.length)
  | some (whole, rest) =>
    let (fraction, afterFraction) := splitFraction rest
    let (exponent, after) := Text.splitExponent afterFraction
    if fraction.isNone && after.length = afterFraction.length then
      if Text.digitLimit < whole.length then .error (.tooManyDigits whole.length)
      else
        let n : Int := Text.ofDigits whole
        .ok (.int (if negative then -n else n), after)
    else .ok (.float (Text.decimalDouble negative whole (fraction.getD []) exponent), after)

/-- The words that are values, with the values. -/
def words : List (List Char × Value) :=
  [("null".toList, .null), ("true".toList, .bool true), ("false".toList, .bool false),
   ("NaN".toList, .float .nan), ("Infinity".toList, .float (.infinite false)),
   ("-Infinity".toList, .float (.infinite true))]

/-- The value of a word in front, and what follows. -/
def readWord? (cs : List Char) : Option (Value × List Char) :=
  words.findSome? fun (word, v) =>
    if word.isPrefixOf cs then some (v, cs.drop word.length) else none

mutual

/-- Reads one value. -/
def readValue : Nat → List Char → Except Fault (Value × List Char)
  | 0, cs => .error (.flaw .value cs.length)
  | fuel + 1, cs =>
    match cs with
    | '"' :: rest => (readString rest).map fun (s, rest) => (.str s, rest)
    | '[' :: rest =>
      match skipSpace rest with
      | ']' :: after => .ok (.list [], after)
      | inner => (readItems fuel inner).map fun (items, rest) => (.list items, rest)
    | '\x7b' :: rest =>
      match skipSpace rest with
      | '\x7d' :: after => .ok (.obj [], after)
      | inner => (readFields fuel [] inner).map fun (fields, rest) => (.obj fields, rest)
    | _ =>
      match readWord? cs with
      | some result => .ok result
      | none => readNumber cs

/-- Reads the items of a list up to its closing bracket. -/
def readItems : Nat → List Char → Except Fault (List Value × List Char)
  | 0, cs => .error (.flaw .value cs.length)
  | fuel + 1, cs => do
    let (v, rest) ← readValue fuel cs
    match skipSpace rest with
    | ']' :: after => return ([v], after)
    | ',' :: more =>
      let (items, after) ← readItems fuel (skipSpace more)
      return (v :: items, after)
    | other => throw (.flaw .comma other.length)

/-- Reads the fields of an object up to its closing brace, with those read so far in `done`. -/
def readFields : Nat → List (String × Value) → List Char →
    Except Fault (List (String × Value) × List Char)
  | 0, _, cs => .error (.flaw .value cs.length)
  | fuel + 1, done, cs =>
    match cs with
    | '"' :: rest => do
      let (key, rest) ← readString rest
      match skipSpace rest with
      | ':' :: more =>
        let (v, rest) ← readValue fuel (skipSpace more)
        let fields := Value.putField key v done
        match skipSpace rest with
        | '\x7d' :: after => return (fields, after)
        | ',' :: more => readFields fuel fields (skipSpace more)
        | other => throw (.flaw .comma other.length)
      | other => throw (.flaw .colon other.length)
    | other => .error (.flaw .fieldName other.length)

end

/-- Reads a whole text.  Each bracket takes two steps. -/
def read (cs : List Char) : Except Fault Value :=
  match cs with
  | '\ufeff' :: _ => .error (.flaw .byteOrderMark cs.length)
  | _ => do
    let (v, rest) ← readValue (2 * cs.length + 1) (skipSpace cs)
    match skipSpace rest with
    | [] => return v
    | other => throw (.flaw .extra other.length)

end SourceSurvey.Json
