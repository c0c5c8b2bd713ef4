import SourceSurvey.Expression.Token

/-!
# Scanning expressions

`scan` cuts a text into tokens.  Line ends count only outside brackets.  Tokens end at the first
fault.  Some faults are told wherever they stand in the text: brackets that do not match, quotes
that are not closed, numbers and characters that cannot be read.  Others, such as a bracket that is
still open at the end, matter only if the tokens before them are read that far.
-/

namespace SourceSurvey.Expression

/-- Line ends of any form as line feeds. -/
def unifyLines : List Char → List Char
  | '\r' :: '\n' :: rest => '\n' :: unifyLines rest
  | '\r' :: rest => '\n' :: unifyLines rest
  | c :: rest => c :: unifyLines rest
  | [] => []

/-- Whether a character can be part of a name as far as the scanner looks. -/
def inName (c : Char) : Bool := c.isAlphanum || c == '_' || 128 ≤ c.toNat

/-- Whether a character can begin a name as far as the scanner looks. -/
def startsName (c : Char) : Bool := inName c && !c.isDigit

/-- What follows a text if it stands in front. -/
def after? (front : String) (cs : List Char) : Option (List Char) :=
  if front.toList.isPrefixOf cs then some (cs.drop front.length) else none

/-- Whether a keyword stands in front and ends there. -/
def endsKeyword (word : String) (cs : List Char) : Bool :=
  match after? word cs with
  | some (c :: _) => !inName c
  | some [] => true
  | none => false

/-- Whether what follows a number may follow it without a blank: a keyword, or anything that is not
part of a name. -/
def mayFollowNumber (cs : List Char) : Bool :=
  match cs with
  | [] => true
  | 'i' :: c :: _ => c = 'f' || c = 'n' || c = 's'
  | c :: _ => ["and", "else", "for", "or", "not"].any (endsKeyword · cs) || !inName c

/-- Checks what follows a number in some notation. -/
def endNumber (kind : String) (cs : List Char) : Except Complaint (List Char) :=
  if mayFollowNumber cs then .ok cs else .error (.badNumber kind)

/-- What follows decimal digits with single low lines between them. -/
def afterDigits : List Char → Except Complaint (List Char)
  | '_' :: d :: cs => if d.isDigit then afterDigits cs else .error (.badNumber "decimal")
  | ['_'] => .error (.badNumber "decimal")
  | c :: cs => if c.isDigit then afterDigits cs else .ok (c :: cs)
  | [] => .ok []

/-- The end of a number behind an imaginary sign, if there is one. -/
def afterImaginary (cs : List Char) : Except Complaint (List Char) :=
  match cs with
  | 'j' :: rest | 'J' :: rest => endNumber "imaginary" rest
  | _ => endNumber "decimal" cs

/-- What follows the exponent of a number, if there is one. -/
def afterExponent (cs : List Char) : Except Complaint (List Char) :=
  let digits (rest : List Char) : Except Complaint (List Char) :=
    do afterImaginary (← afterDigits rest)
  match cs with
  | mark :: rest =>
    if mark = 'e' || mark = 'E' then
      match rest with
      | sign :: more =>
        if sign = '+' || sign = '-' then
          match more with
          | d :: _ => if d.isDigit then digits more else .error (.badNumber "decimal")
          | [] => .error (.badNumber "decimal")
        else if sign.isDigit then digits rest
        else endNumber "decimal" cs
      | [] => endNumber "decimal" cs
    else afterImaginary cs
  | [] => afterImaginary cs

/-- What follows the places of a number, behind its point. -/
def afterPlaces (cs : List Char) : Except Complaint (List Char) := do
  match cs with
  | d :: _ => afterExponent (← if d.isDigit then afterDigits cs else .ok cs)
  | [] => afterExponent cs

/-- What follows a decimal number behind its digits before the point. -/
def afterWhole (cs : List Char) : Except Complaint (List Char) :=
  match cs with
  | '.' :: rest => afterPlaces rest
  | _ => afterExponent cs

/-- What follows digits of a base, behind the letter of the base; `fresh` tells that a digit has to
come. -/
def afterBaseDigits (isDigit : Char → Bool) (kind : String) (fresh : Bool) :
    List Char → Except Complaint (List Char)
  | [] => if fresh then .error (.badNumber kind) else .ok []
  | c :: cs =>
    if isDigit c then afterBaseDigits isDigit kind false cs
    else if c.isDigit then .error (.badDigit c kind)
    else if fresh then .error (.badNumber kind)
    else if c = '_' then afterBaseDigits isDigit kind true cs
    else endNumber kind (c :: cs)

/-- `afterBaseDigits` behind the letter of the base, where a low line may come first. -/
def afterBase (isDigit : Char → Bool) (kind : String) (cs : List Char) :
    Except Complaint (List Char) :=
  match cs with
  | '_' :: rest => afterBaseDigits isDigit kind true rest
  | _ => afterBaseDigits isDigit kind true cs

/-- Whether a character is a hexadecimal digit. -/
def isHexDigit (c : Char) : Bool := c.isDigit || ('a' ≤ c && c ≤ 'f') || ('A' ≤ c && c ≤ 'F')

/-- What follows the zeros at the front of a number, with single low lines between them. -/
def afterZeros : List Char → Except Complaint (List Char)
  | '_' :: d :: cs =>
    if !d.isDigit then .error (.badNumber "decimal")
    else if d = '0' then afterZeros cs
    else .ok (d :: cs)
  | ['_'] => .error (.badNumber "decimal")
  | '0' :: cs => afterZeros cs
  | cs => .ok cs

/-- What follows a decimal number that begins with a zero, which has to be zero or have a point, an
exponent or an imaginary sign. -/
def afterZero (cs : List Char) : Except Complaint (List Char) := do
  let rest ← afterZeros cs
  match rest with
  | d :: _ =>
    if d.isDigit then
      let rest ← afterDigits rest
      match rest with
      | c :: _ =>
        if ['.', 'e', 'E', 'j', 'J'].contains c then afterWhole rest else .error .leadingZeros
      | [] => .error .leadingZeros
    else afterWhole rest
  | [] => .ok []

/-- What follows a number. -/
def afterNumber (cs : List Char) : Except Complaint (List Char) :=
  match cs with
  | '0' :: 'x' :: rest | '0' :: 'X' :: rest => afterBase isHexDigit "hexadecimal" rest
  | '0' :: 'o' :: rest | '0' :: 'O' :: rest => afterBase (fun c => '0' ≤ c && c ≤ '7') "octal" rest
  | '0' :: 'b' :: rest | '0' :: 'B' :: rest => afterBase (fun c => c = '0' || c = '1') "binary" rest
  | '0' :: rest => afterZero rest
  | '.' :: rest => afterPlaces rest
  | _ => do afterWhole (← afterDigits cs)

/-- What follows a text behind its opening quotes, and its line; `closing` has as many quotes as are
needed. -/
def afterQuoted (closing : List Char) (line : Nat) : List Char → Except Complaint (Nat × List Char)
  | [] => .error (.unterminated (closing.length = 3) line)
  | c :: cs =>
    if closing.isPrefixOf (c :: cs) then .ok (line, (c :: cs).drop closing.length)
    else if c = '\n' then
      if closing.length = 3 then afterQuoted closing (if cs.isEmpty then line else line + 1) cs
      else .error (.unterminated false line)
    else if c = '\\' then
      match cs with
      | [] => .error (.unterminated (closing.length = 3) line)
      | d :: rest =>
        afterQuoted closing (if d = '\n' && !rest.isEmpty then line + 1 else line) rest
    else afterQuoted closing line cs

/-- What follows a text that begins with a quote. -/
def afterText (line : Nat) (cs : List Char) : Except Complaint (Nat × List Char) :=
  match cs with
  | a :: b :: c :: rest =>
    if a = b && b = c then afterQuoted [a, b, c] line rest
    else if a = b then .ok (line, c :: rest)
    else afterQuoted [a] line (b :: c :: rest)
  | [a, b] => if a = b then .ok (line, []) else afterQuoted [a] line [b]
  | [a] => afterQuoted [a] line []
  | [] => .error (.unterminated false line)

/-- The letters that may stand in front of a quote. -/
def textMarks : List String := ["b", "u", "r", "f", "br", "rb", "fr", "rf"]

/-- The signs of several characters, the longest first. -/
def longSigns : List String :=
  ["**=", "...", "//=", "<<=", ">>=", "!=", "%=", "&=", "**", "*=", "+=", "-=", "->",
    "//", "/=", ":=", "<<", "<=", "<>", "==", ">=", ">>", "@=", "^=", "|="]

/-- Where a scan is. -/
structure Scanner where
  rest : List Char
  line : Nat
  brackets : List (Char × Nat)
  indents : List Nat

/-- The bracket that closes another. -/
def closingOf (c : Char) : Char := if c = '(' then ')' else if c = '[' then ']' else '\x7d'

/-- The greatest number of brackets inside each other. -/
def bracketLimit : Nat := 200

/-- The brackets that are open behind a character. -/
def openBehind (line : Nat) (brackets : List (Char × Nat)) (c : Char) :
    Except Complaint (List (Char × Nat)) :=
  if ['(', '[', '\x7b'].contains c then
    if bracketLimit ≤ brackets.length then .error .tooDeep else .ok ((c, line) :: brackets)
  else if [')', ']', '\x7d'].contains c then
    match brackets with
    | [] => .error (.unmatched c)
    | (o, first) :: others =>
      if closingOf o = c then .ok others
      else .error (.mismatched c o (if first = line then none else some first))
  else .ok brackets

/-- Refuses a name with characters that no name has. -/
def checkName (name : List Char) : Except Complaint Unit :=
  match name.find? fun c => 128 ≤ c.toNat && !Text.isWord c with
  | none => .ok ()
  | some c => .error (if Text.isPrinted c then .badCharacter c else .hiddenCharacter c)

/-- The next token on a line that does not begin with a blank, and where the scan is behind it. -/
def nextToken (s : Scanner) : Except Complaint (Token × Scanner) :=
  let token (kind : TokenKind) (brackets : List (Char × Nat)) (line : Nat) (rest : List Char) :
      Token × Scanner :=
    (⟨kind, s.rest.take (s.rest.length - rest.length), brackets.length, s.line⟩,
      { s with rest := rest, line := line, brackets := brackets })
  match s.rest with
  | [] => .ok (token .finish s.brackets s.line [])
  | c :: cs =>
    let name := s.rest.takeWhile inName
    let behind := s.rest.dropWhile inName
    let quoted := (behind.head?.any fun q => q = '\'' || q = '"') &&
      (name.isEmpty || textMarks.contains (String.ofList (name.map Char.toLower)))
    if quoted then do
      let (line, rest) ← afterText s.line behind
      return token .text s.brackets line rest
    else if startsName c then do
      checkName name
      return token .name s.brackets s.line behind
    else if c.isDigit || (c = '.' && cs.head?.any Char.isDigit) then do
      return token .number s.brackets s.line (← afterNumber s.rest)
    else
      match longSigns.findSome? (after? · s.rest) with
      | some rest => .ok (token .sign s.brackets s.line rest)
      | none => do
        let brackets ← openBehind s.line s.brackets c
        if Text.isPrinted c then return token .sign brackets s.line cs
        else throw (.hiddenCharacter c)

/-- The complaint about a text that ends too early, with some brackets open. -/
def endComplaint : List (Char × Nat) → Complaint
  | [] => .unexpectedEnd
  | (bracket, _) :: _ => .neverClosed bracket

/-- The column behind the blanks at the front of a line. -/
def column (from_ : Nat) : List Char → Nat
  | ' ' :: cs => column (from_ + 1) cs
  | '\t' :: cs => column ((from_ / 8 + 1) * 8) cs
  | '\x0c' :: cs => column 0 cs
  | _ => from_

/-- Whether a character is a blank within a line. -/
def isLineBlank (c : Char) : Bool := c = ' ' || c = '\t' || c = '\x0c'

/-- The marks of indentation in front of a line at a column, and the columns that are indented
behind them; none when the column fits to none of them. -/
def indentation (line at_ : Nat) (indents : List Nat) : Option (List Token × List Nat) :=
  let current := indents.head?.getD 0
  if at_ = current then some ([], indents)
  else if current < at_ then some ([⟨.indent, [], 0, line⟩], at_ :: indents)
  else
    let kept := indents.dropWhile (at_ < ·)
    if kept.head?.getD 0 = at_ then
      some (List.replicate (indents.length - kept.length) ⟨.dedent, [], 0, line⟩, kept)
    else none

/-- Whether the character behind a token has to be looked at to tell that the token ends.  A closing
quote ends its text, and no sign has more than three characters. -/
def looksBehind (token : Token) : Bool :=
  token.kind ≠ .text && !(token.kind = .sign && token.chars.length = 3)

/-- Scans on, with the tokens so far in reverse; `fresh` tells that a line begins.  Every step takes
a character or ends the line that is begun. -/
def scanFrom : Nat → Bool → Scanner → List Token → Scanned
  | 0, _, _, found => ⟨found.reverse.toArray, .whole, none, false⟩
  | fuel + 1, fresh, s, found =>
    let rest := s.rest.dropWhile isLineBlank
    let stop (ending : Ending) : Scanned := ⟨found.reverse.toArray, ending, s.brackets.head?, false⟩
    match rest with
    | '#' :: _ => scanFrom fuel fresh { s with rest := rest.dropWhile (· ≠ '\n') } found
    | '\n' :: after =>
      let next := { s with rest := after, line := s.line + 1 }
      if fresh || !s.brackets.isEmpty then scanFrom fuel true next found
      else scanFrom fuel true next (⟨.lineEnd, [], 0, s.line⟩ :: found)
    | '\\' :: '\n' :: after =>
      if after.isEmpty then stop (.broken (endComplaint s.brackets))
      else scanFrom fuel fresh { s with rest := after, line := s.line + 1 } found
    | '\\' :: _ => stop (.broken .strayBackslash)
    | _ =>
      if fresh && s.brackets.isEmpty then
        match indentation s.line (column 0 s.rest) s.indents with
        | none => stop (.broken .badUnindent)
        | some (marks, indents) =>
          scanFrom fuel false { s with rest := rest, indents := indents } (marks.reverse ++ found)
      else if rest.isEmpty && !s.brackets.isEmpty then stop (.broken (endComplaint s.brackets))
      else
        match nextToken { s with rest := rest } with
        | .error why => stop (.faulty why)
        | .ok (token, next) =>
          let found := token :: found
          if token.kind = .finish then ⟨found.reverse.toArray, .whole, none, false⟩
          else if next.rest.isEmpty && !next.brackets.isEmpty then
            ⟨found.reverse.toArray, .broken (endComplaint next.brackets), next.brackets.head?,
              looksBehind token⟩
          else scanFrom fuel false next found

/-- The tokens of a text. -/
def scan (text : List Char) : Scanned :=
  let text := unifyLines text
  scanFrom (2 * text.length + 3) true ⟨text, 1, [], []⟩ []

end SourceSurvey.Expression
