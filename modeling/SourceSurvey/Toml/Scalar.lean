import SourceSurvey.Json.Reader
import SourceSurvey.Toml.Fault

/-!
# Strings, numbers and dates of TOML

Readers for the parts of a document that hold no other values.  Each takes the text from where the
part starts, or from behind its opening quote, and returns what follows the part.
-/

namespace SourceSurvey.Toml

/-- White space inside a line. -/
def isGap (c : Char) : Bool := c == ' ' || c == '\t'

/-- White space with line ends. -/
def isGapOrBreak (c : Char) : Bool := isGap c || c == '\n'

/-- A text without the white space in front. -/
def skipGap (cs : List Char) : List Char := cs.dropWhile isGap

/-- The control characters of ASCII without the tab; a line end counts only where `lines` does not
hold. -/
def isForbidden (lines : Bool) (c : Char) : Bool :=
  (c.toNat < 0x20 || c.toNat = 0x7F) && c != '\t' && !(lines && c == '\n')

/-- The text before the first occurrence of a mark, and the text behind that mark. -/
def splitAtMark (mark : List Char) : List Char → Option (List Char × List Char)
  | [] => none
  | c :: cs =>
    if mark.isPrefixOf (c :: cs) then some ([], (c :: cs).drop mark.length)
    else (splitAtMark mark cs).map fun (before, after) => (c :: before, after)

/-- Fails at the first forbidden character of `part`, behind which `after` characters stand. -/
def refuseForbidden (lines : Bool) (part : List Char) (after : Nat) : Except Fault Unit :=
  match part.dropWhile (fun c => !isForbidden lines c) with
  | [] => .ok ()
  | c :: rest => .error (.flaw (.foundInvalid c) (rest.length + 1 + after))

/-- Skips a comment up to the end of its line. -/
def skipComment (cs : List Char) : Except Fault (List Char) :=
  match cs with
  | '#' :: rest => do
    let part := rest.takeWhile (· != '\n')
    let after := rest.dropWhile (· != '\n')
    refuseForbidden false part after.length
    return after
  | _ => .ok cs

/-- Reads a literal string behind its opening mark. -/
def readLiteral (lines : Bool) (mark cs : List Char) : Except Fault (String × List Char) :=
  match splitAtMark mark cs with
  | none => .error (.flaw (.expected (String.ofList mark)) 0)
  | some (part, after) => do
    refuseForbidden lines part (mark.length + after.length)
    return (String.ofList part, after)

/-- The character that a letter after a backslash stands for. -/
def escaped? (c : Char) : Option Char :=
  match c with
  | 'b' => some '\x08'
  | 't' => some '\t'
  | 'n' => some '\n'
  | 'f' => some '\x0c'
  | 'r' => some '\r'
  | '"' => some '"'
  | '\\' => some '\\'
  | _ => none

/-- Reads a character given by a number of hexadecimal digits. -/
def readHexChar (width : Nat) (cs : List Char) : Except Fault (Char × List Char) :=
  let digits := (cs.take width).filterMap Json.hexDigit?
  if digits.length = width then
    let code := digits.foldl (fun n d => 16 * n + d) 0
    let after := cs.drop width
    if code < 0xD800 || (0xE000 ≤ code && code ≤ 0x10FFFF) then .ok (Char.ofNat code, after)
    else .error (.flaw .notScalar after.length)
  else .error (.flaw .hexValue cs.length)

/-- Skips a line end that a backslash hides, with the white space around it. -/
def skipHiddenBreak (cs : List Char) : Except Fault (List Char) :=
  match skipGap cs with
  | [] => .ok []
  | '\n' :: rest => .ok (rest.dropWhile isGapOrBreak)
  | other => .error (.flaw .backslash other.length)

/-- Reads what follows a backslash: a character, or a hidden line end. -/
def readEscape (lines : Bool) (cs : List Char) : Except Fault (List Char × List Char) :=
  match cs with
  | [] => .error (.flaw .backslash 0)
  | 'u' :: rest => (readHexChar 4 rest).map fun (c, rest) => ([c], rest)
  | 'U' :: rest => (readHexChar 8 rest).map fun (c, rest) => ([c], rest)
  | c :: rest =>
    if lines && isGapOrBreak c then (skipHiddenBreak cs).map fun rest => ([], rest)
    else
      match escaped? c with
      | some e => .ok ([e], rest)
      | none => .error (.flaw .backslash rest.length)

/-- Reads a basic string behind its opening quotes, with what is read so far in `done`, last first.
`lines` tells a string of several lines, which ends with three quotes. -/
def readBasicFrom (lines : Bool) : Nat → List Char → List Char → Except Fault (String × List Char)
  | 0, _, _ => .error (.flaw .unterminated 0)
  | fuel + 1, done, cs =>
    match cs with
    | [] => .error (.flaw .unterminated 0)
    | '"' :: rest =>
      if lines then
        match rest with
        | '"' :: '"' :: after => .ok (String.ofList done.reverse, after)
        | _ => readBasicFrom lines fuel ('"' :: done) rest
      else .ok (String.ofList done.reverse, rest)
    | '\\' :: rest => do
      let (part, after) ← readEscape lines rest
      readBasicFrom lines fuel (part ++ done) after
    | c :: rest =>
      if isForbidden lines c then .error (.flaw (.illegal c) cs.length)
      else readBasicFrom lines fuel (c :: done) rest

/-- Reads a basic string behind its opening quotes. -/
def readBasic (lines : Bool) (cs : List Char) : Except Fault (String × List Char) :=
  readBasicFrom lines (cs.length + 1) [] cs

/-- A text without a line end in front. -/
def skipBreak : List Char → List Char
  | '\n' :: rest => rest
  | cs => cs

/-- Up to two more quotes behind the closing ones belong to a string of several lines. -/
def takeQuotes (quote : Char) (s : String) (cs : List Char) : String × List Char :=
  let extra := min 2 (cs.takeWhile (· == quote)).length
  (s ++ String.ofList (List.replicate extra quote), cs.drop extra)

/-- Reads a string; the text starts with its quote. -/
def readQuoted (cs : List Char) : Except Fault (String × List Char) :=
  match cs with
  | '"' :: '"' :: '"' :: rest =>
    (readBasic true (skipBreak rest)).map fun (s, after) => takeQuotes '"' s after
  | '"' :: rest => readBasic false rest
  | '\'' :: '\'' :: '\'' :: rest =>
    (readLiteral true ['\'', '\'', '\''] (skipBreak rest)).map fun (s, after) =>
      takeQuotes '\'' s after
  | '\'' :: rest => readLiteral false ['\''] rest
  | _ => .error (.flaw .value cs.length)

/-- Digits with single low lines between them, after a first digit. -/
def digitTail (isDigit : Char → Bool) : List Char → List Char × List Char
  | '_' :: d :: rest =>
    if isDigit d then
      let (ds, after) := digitTail isDigit rest
      (d :: ds, after)
    else ([], '_' :: d :: rest)
  | d :: rest =>
    if isDigit d then
      let (ds, after) := digitTail isDigit rest
      (d :: ds, after)
    else ([], d :: rest)
  | [] => ([], [])

/-- Digits with single low lines between them; empty when the text starts with no digit. -/
def digitGroup (isDigit : Char → Bool) (cs : List Char) : List Char × List Char :=
  match cs with
  | d :: rest =>
    if isDigit d then
      let (ds, after) := digitTail isDigit rest
      (d :: ds, after)
    else ([], cs)
  | [] => ([], [])

/-- The number of digits in a base. -/
def ofBase (base : Nat) (ds : List Char) : Nat :=
  (ds.filterMap Json.hexDigit?).foldl (fun n d => base * n + d) 0

/-- An integer with a base mark, `0x`, `0o` or `0b`. -/
def readBased? (cs : List Char) : Option (Value × List Char) :=
  let inBase (base : Nat) (rest : List Char) : Option (Value × List Char) :=
    match digitGroup (fun c => (Json.hexDigit? c).any (· < base)) rest with
    | ([], _) => none
    | (ds, after) => some (.int (ofBase base ds), after)
  match cs with
  | '0' :: 'x' :: rest => inBase 16 rest
  | '0' :: 'o' :: rest => inBase 8 rest
  | '0' :: 'b' :: rest => inBase 2 rest
  | _ => none

/-- A mark with digits behind it; nothing when the digits are missing. -/
def markedDigits (cs : List Char) : Option (List Nat) × List Char :=
  match digitGroup Char.isDigit cs with
  | ([], _) => (none, cs)
  | (ds, after) => (some (ds.filterMap Text.asciiDigit?), after)

/-- A point with digits. -/
def splitFraction (cs : List Char) : Option (List Nat) × List Char :=
  match cs with
  | '.' :: rest =>
    match markedDigits rest with
    | (some ds, after) => (some ds, after)
    | (none, _) => (none, cs)
  | _ => (none, cs)

/-- An exponent mark with digits. -/
def splitExponent (cs : List Char) : Option Int × List Char :=
  match cs with
  | mark :: rest =>
    if mark = 'e' || mark = 'E' then
      let (negative, body) := Text.splitSign rest
      match markedDigits body with
      | (some ds, after) =>
        (some (if negative then -(Text.ofDigits ds : Int) else Text.ofDigits ds), after)
      | (none, _) => (none, cs)
    else (none, cs)
  | [] => (none, [])

/-- The whole part of a decimal number: a zero alone, or digits that start with another one. -/
def splitWhole (cs : List Char) : Option (List Nat × List Char) :=
  match cs with
  | '0' :: rest => some ([0], rest)
  | _ =>
    match markedDigits cs with
    | (some ds, after) => some (ds, after)
    | (none, _) => none

/-- A decimal number in front: an integer, or a double when it has a fraction or an exponent. -/
def readDecimal? (cs : List Char) : Option (Except Fault (Value × List Char)) :=
  let (negative, body) := Text.splitSign cs
  match splitWhole body with
  | none => none
  | some (whole, rest) =>
    let (fraction, rest) := splitFraction rest
    let (exponent, rest) := splitExponent rest
    if fraction.isNone && exponent.isNone then
      if Text.digitLimit < whole.length then some (.error (.tooManyDigits whole.length))
      else
        let n : Int := Text.ofDigits whole
        some (.ok (.int (if negative then -n else n), rest))
    else
      some (.ok (.float (Text.decimalDouble negative whole (fraction.getD []) (exponent.getD 0)),
        rest))

/-- The names of the doubles that are not finite, with their values. -/
def namedDoubles : List (List Char × Double) :=
  [("inf".toList, .infinite false), ("nan".toList, .nan), ("-inf".toList, .infinite true),
   ("+inf".toList, .infinite false), ("-nan".toList, .nan), ("+nan".toList, .nan)]

/-- A named double in front. -/
def readNamed? (cs : List Char) : Option (Value × List Char) :=
  namedDoubles.findSome? fun (name, x) =>
    if name.isPrefixOf cs then some (.float x, cs.drop name.length) else none

/-- Two digits that make a number between bounds. -/
def twoDigits? (least greatest : Nat) (a b : Char) : Option Nat := do
  let x ← Text.asciiDigit? a
  let y ← Text.asciiDigit? b
  let n := 10 * x + y
  if least ≤ n && n ≤ greatest then some n else none

/-- The microseconds behind a point; digits beyond the sixth do not count. -/
def readMicro (cs : List Char) : Nat × List Char :=
  match cs with
  | '.' :: rest =>
    match Text.digitSpan rest with
    | ([], _) => (0, cs)
    | (ds, after) => (Text.ofDigits ((ds ++ List.replicate 6 0).take 6), after)
  | _ => (0, cs)

/-- A time of day in front. -/
def readClock? (cs : List Char) : Option (Clock × List Char) :=
  match cs with
  | a :: b :: ':' :: c :: d :: ':' :: e :: f :: rest => do
    let hour ← twoDigits? 0 23 a b
    let minute ← twoDigits? 0 59 c d
    let second ← twoDigits? 0 59 e f
    let (micro, after) := readMicro rest
    return (⟨hour, minute, second, micro⟩, after)
  | _ => none

/-- A date in front, which need not be one of the calendar. -/
def readDay? (cs : List Char) : Option (Day × List Char) :=
  match cs with
  | a :: b :: c :: d :: '-' :: e :: f :: '-' :: g :: h :: rest => do
    let century ← twoDigits? 0 99 a b
    let year ← twoDigits? 0 99 c d
    let month ← twoDigits? 1 12 e f
    let day ← twoDigits? 1 31 g h
    return (⟨100 * century + year, month, day⟩, rest)
  | _ => none

/-- The days of a month. -/
def daysIn (year month : Nat) : Nat :=
  if month = 2 then
    if year % 4 = 0 && (year % 100 ≠ 0 || year % 400 = 0) then 29 else 28
  else if month = 4 || month = 6 || month = 9 || month = 11 then 30
  else 31

/-- Whether a date is one of the calendar. -/
def isCalendarDay (d : Day) : Bool := 1 ≤ d.year && d.day ≤ daysIn d.year d.month

/-- An offset behind a time, in minutes. -/
def readOffset (cs : List Char) : Option Int × List Char :=
  match cs with
  | 'Z' :: rest => (some 0, rest)
  | 'z' :: rest => (some 0, rest)
  | sign :: a :: b :: ':' :: c :: d :: rest =>
    if sign = '+' || sign = '-' then
      match twoDigits? 0 23 a b, twoDigits? 0 59 c d with
      | some hours, some minutes =>
        let total : Int := 60 * hours + minutes
        (some (if sign = '-' then -total else total), rest)
      | _, _ => (none, cs)
    else (none, cs)
  | _ => (none, cs)

/-- A date, or a date and a time, in front. -/
def readStamp? (cs : List Char) : Option (Except Fault (Value × List Char)) :=
  match readDay? cs with
  | none => none
  | some (day, rest) =>
    let (m, after) : Moment × List Char :=
      match rest with
      | mark :: more =>
        if mark = 'T' || mark = 't' || mark = ' ' then
          match readClock? more with
          | some (clock, more) =>
            let (offset, after) := readOffset more
            (.stamp day clock offset, after)
          | none => (.date day, rest)
        else (.date day, rest)
      | [] => (.date day, [])
    some (if isCalendarDay day then .ok (.moment m, after) else .error (.flaw .date cs.length))

/-- Reads a value that is a date, a time or a number. -/
def readPlain (cs : List Char) : Except Fault (Value × List Char) :=
  match readStamp? cs with
  | some result => result
  | none =>
    match readClock? cs with
    | some (clock, rest) => .ok (.moment (.time clock), rest)
    | none =>
      match readBased? cs with
      | some result => .ok result
      | none =>
        match readDecimal? cs with
        | some result => result
        | none =>
          match readNamed? cs with
          | some result => .ok result
          | none => .error (.flaw .value cs.length)

end SourceSurvey.Toml
