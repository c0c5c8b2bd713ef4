import SourceSurvey.Double.Basic
import SourceSurvey.Text.Class

/-!
# Reading numbers from free text

The number texts that people type: blanks around the numeral, one sign, the decimal digits of any
script, and single low lines between digits.

* `plainChar` turns digits of any script into ASCII and blanks outside ASCII into spaces;
* `readInteger` reads an integer, of at most `digitLimit` digits;
* `readDouble` reads a decimal numeral, an infinity or a NaN;
* `readCount` reads a count in ASCII digits, which may be written with places that are all zero.
-/

namespace SourceSurvey.Text

/-- The longest decimal numeral that is read as an integer. -/
def digitLimit : Nat := 4300

/-- The digit zero of each script: the decimal digits of a script are ten consecutive code points
(Unicode 14.0 category Nd). -/
def zeroDigits : List Nat := [
  0x30, 0x660, 0x6F0, 0x7C0, 0x966, 0x9E6, 0xA66, 0xAE6, 0xB66, 0xBE6, 0xC66, 0xCE6, 0xD66,
   0xDE6, 0xE50, 0xED0, 0xF20, 0x1040, 0x1090, 0x17E0, 0x1810, 0x1946, 0x19D0, 0x1A80, 0x1A90,
   0x1B50, 0x1BB0, 0x1C40, 0x1C50, 0xA620, 0xA8D0, 0xA900, 0xA9D0, 0xA9F0, 0xAA50, 0xABF0,
   0xFF10, 0x104A0, 0x10D30, 0x11066, 0x110F0, 0x11136, 0x111D0, 0x112F0, 0x11450, 0x114D0,
   0x11650, 0x116C0, 0x11730, 0x118E0, 0x11950, 0x11C50, 0x11D50, 0x11DA0, 0x16A60, 0x16AC0,
   0x16B50, 0x1D7CE, 0x1D7D8, 0x1D7E2, 0x1D7EC, 0x1D7F6, 0x1E140, 0x1E2F0, 0x1E950, 0x1FBF0]

/-- The value of a decimal digit of any script. -/
def digitValue? (c : Char) : Option Nat :=
  zeroDigits.findSome? fun first =>
    if first ≤ c.toNat && c.toNat < first + 10 then some (c.toNat - first) else none

/-- The value of an ASCII digit. -/
def asciiDigit? (c : Char) : Option Nat := if c.isDigit then some (c.toNat - '0'.toNat) else none

/-- A digit of any script as the ASCII digit, and a blank outside ASCII as a space. -/
def plainChar (c : Char) : Char :=
  if c.toNat < 0x80 then c
  else if isBlank c then ' '
  else
    match digitValue? c with
    | some d => Char.ofNat ('0'.toNat + d)
    | none => c

/-- The blanks of ASCII that may stand around a numeral. -/
def isPadding (c : Char) : Bool := c == ' ' || (9 ≤ c.toNat && c.toNat ≤ 13)

/-- A numeral without its padding, in ASCII as far as it has digits and blanks. -/
def unpadded (cs : List Char) : List Char :=
  ((((cs.map plainChar).dropWhile isPadding).reverse).dropWhile isPadding).reverse

/-- A sign in front, and what follows; `true` is minus. -/
def splitSign : List Char → Bool × List Char
  | '-' :: cs => (true, cs)
  | '+' :: cs => (false, cs)
  | cs => (false, cs)

/-- The number that a list of digit values stands for. -/
def ofDigits (ds : List Nat) : Nat := ds.foldl (fun n d => 10 * n + d) 0

/-- What stands before a character inside a run of digits. -/
inductive Before where
  | start
  | digit
  | lowLine
  deriving DecidableEq

/-- The digits in front, with single low lines between them, and what follows; none when a low line
stands elsewhere in the run. -/
def digitRun (before : Before) : List Char → Option (List Nat × List Char)
  | [] => if before = .lowLine then none else some ([], [])
  | c :: cs =>
    if c = '_' then
      if before = .digit then digitRun .lowLine cs else none
    else
      match asciiDigit? c with
      | some d => (digitRun .digit cs).map fun (ds, rest) => (d :: ds, rest)
      | none => if before = .lowLine then none else some ([], c :: cs)

/-- Why a text is no integer. -/
inductive NumeralFlaw where
  | malformed
  | tooManyDigits (count : Nat)
  deriving DecidableEq

/-- Reads an integer.  The number of digits is checked before what follows them. -/
def readInteger (cs : List Char) : Except NumeralFlaw Int :=
  let (negative, body) := splitSign (unpadded cs)
  match digitRun .start body with
  | none => .error .malformed
  | some (ds, rest) =>
    if digitLimit < ds.length then .error (.tooManyDigits ds.length)
    else if ds.isEmpty || !rest.isEmpty then .error .malformed
    else .ok (if negative then -(ofDigits ds : Int) else ofDigits ds)

/-- The characters of a numeral behind the zeros and low lines at its front, with the last of those,
in `last`, kept before a point and at the end. -/
def behindZeros (last : Char) : List Char → List Char
  | [] => [last]
  | c :: cs =>
    if c = '0' || c = '_' then behindZeros c cs
    else if c = '.' then last :: c :: cs
    else c :: cs

/-- A numeral without zeros at its front. -/
def withoutZeros : List Char → List Char
  | '0' :: cs => behindZeros '0' cs
  | cs => cs

/-- A numeral without its places; none when they are not all zero. -/
def withoutPlaces (cs : List Char) : Option (List Char) :=
  match cs.dropWhile (· ≠ '.') with
  | [] => some cs
  | _ :: places =>
    if !places.isEmpty && places.all (· = '0') then some (cs.takeWhile (· ≠ '.')) else none

/-- Reads a count without sign: ASCII digits with single low lines between them. -/
def readDigits (cs : List Char) : Option Nat :=
  match digitRun .start cs with
  | some (d :: ds, []) => some (ofDigits (d :: ds))
  | _ => none

/-- Whether a blank may stand around a count; the separator controls may not. -/
def isCountPadding (c : Char) : Bool := isBlank c && !(0x1C ≤ c.toNat && c.toNat ≤ 0x1F)

/-- Reads a count: blanks around it, a plus sign, zeros in front, and places that are all zero are
allowed. -/
def readCount (cs : List Char) : Option Nat := do
  let body := ((cs.dropWhile isCountPadding).reverse.dropWhile isCountPadding).reverse
  let unsigned := match body with
    | '+' :: rest => rest
    | _ => body
  readDigits (← withoutPlaces (withoutZeros unsigned))

/-- The digits in front, and what follows. -/
def digitSpan (cs : List Char) : List Nat × List Char :=
  ((cs.takeWhile Char.isDigit).filterMap asciiDigit?, cs.dropWhile Char.isDigit)

/-- An exponent mark with its digits, and what follows; no exponent when the digits are missing. -/
def splitExponent (cs : List Char) : Int × List Char :=
  match cs with
  | mark :: more =>
    if mark = 'e' || mark = 'E' then
      let (negative, body) := splitSign more
      match digitSpan body with
      | ([], _) => (0, cs)
      | (ds, rest) => (if negative then -(ofDigits ds : Int) else ofDigits ds, rest)
    else (0, cs)
  | [] => (0, [])

/-- The double nearest to a numeral with the given digits before and after its point. -/
def decimalDouble (negative : Bool) (whole fraction : List Nat) (exponent : Int) : Double :=
  Double.ofDecimal negative (ofDigits (whole ++ fraction)) (exponent - fraction.length)

/-- A decimal numeral without sign, which must be the whole text. -/
def readDecimal (negative : Bool) (cs : List Char) : Option Double :=
  let (whole, rest) := digitSpan cs
  let (fraction, rest) :=
    match rest with
    | '.' :: more => digitSpan more
    | _ => ([], rest)
  if whole.isEmpty && fraction.isEmpty then none
  else
    let (exponent, rest) := splitExponent rest
    if rest.isEmpty then some (decimalDouble negative whole fraction exponent) else none

/-- A text without its low lines; none when one of them is not between digits. -/
def dropLowLines (afterDigit : Bool) : List Char → Option (List Char)
  | [] => some []
  | '_' :: c :: cs =>
    if afterDigit && c.isDigit then dropLowLines true (c :: cs) else none
  | c :: cs => if c = '_' then none else (dropLowLines c.isDigit cs).map (c :: ·)

/-- Reads a decimal numeral, an infinity or a NaN; letters in either case. -/
def readDouble (cs : List Char) : Option Double :=
  match dropLowLines false (unpadded cs) with
  | none => none
  | some plain =>
    let (negative, body) := splitSign plain
    let word := String.ofList (body.map Char.toLower)
    if word = "inf" || word = "infinity" then some (.infinite negative)
    else if word = "nan" then some .nan
    else readDecimal negative body

end SourceSurvey.Text
