import SourceSurvey.Text.Quoted
import SourceSurvey.Text.Class

/-!
# Tokens of expressions

The parameters of an action tag are an expression, made of tokens: names, numbers, quoted texts and
signs.

* `Token`, and `Scanned` for the tokens of a text and how they end;
* `Complaint`: why a text is no expression, with its wording.
-/

namespace SourceSurvey.Expression

/-- The kinds of tokens. -/
inductive TokenKind where
  | name
  | number
  | text
  | sign
  | lineEnd
  | indent
  | dedent
  | finish
  deriving DecidableEq

/-- A token: its characters, the number of brackets that are open behind it, and its line. -/
structure Token where
  kind : TokenKind
  chars : List Char
  level : Nat
  line : Nat
  deriving DecidableEq

/-- The words that are no names. -/
def keywords : List String :=
  ["False", "None", "True", "and", "as", "assert", "async", "await", "break", "class", "continue",
    "def", "del", "elif", "else", "except", "finally", "for", "from", "global", "if",
    "import", "in",
    "is", "lambda", "nonlocal", "not", "or", "pass", "raise", "return", "try", "while", "with",
    "yield"]

/-- The names that are keywords elsewhere. -/
def softKeywords : List String := ["_", "case", "match"]

namespace Token

/-- The characters of a token as a text. -/
def spelling (t : Token) : String := String.ofList t.chars

/-- Whether a token is a certain keyword or sign. -/
def isWord (t : Token) (word : String) : Bool :=
  (t.kind = .name || t.kind = .sign) && t.spelling == word

/-- Whether a token is of a kind; keywords are no names. -/
def isKind (t : Token) (kind : TokenKind) : Bool :=
  t.kind = kind && !(kind = .name && keywords.contains t.spelling)

end Token

/-- Why a text is no expression. -/
inductive Complaint where
  /-- Nothing more is known than that it is none. -/
  | syntactic
  /-- A zero character in the text. -/
  | zeroByte
  | unmatched (bracket : Char)
  /-- A closing bracket that does not belong to the opening one, with the line of that if it is
  another. -/
  | mismatched (closing opening : Char) (line : Option Nat)
  | neverClosed (bracket : Char)
  | tooDeep
  | unterminated (triple : Bool) (line : Nat)
  /-- A number that breaks off or runs into a name. -/
  | badNumber (kind : String)
  | badDigit (digit : Char) (kind : String)
  | leadingZeros
  | tooManyDigits (count : Nat)
  | badCharacter (c : Char)
  | hiddenCharacter (c : Char)
  | strayBackslash
  | unexpectedEnd
  | unexpectedIndent
  | unexpectedUnindent
  | badUnindent
  /-- An escape in a text that cannot be read: its first and last byte, and what is wrong. -/
  | badEscape (first last : Nat) (what : String)
  | badByteEscape (position : Nat)
  | byteNotAscii
  | mixedTexts
  | missingComma
  | missingElse
  | missingParentheses (name : String)
  | assignmentInside
  | assignmentTo (what : String)
  | assignmentToHere (what : String)
  | walrusWith (what : String)
  | bareStarredPlace
  | starredGroup
  | doubleStarredGroup
  | starredValue
  | missingValue
  | missingColon
  | starredComprehension
  | unpackedComprehension
  | bareTarget
  | bareGenerator
  | starAfterDoubleStar
  | positionalAfterKeyword
  | positionalAfterUnpacking
  | keywordExpression
  | defaultThenPlain
  | parenthesizedParameters
  | slashFirst
  | slashTwice
  | slashAfterStar
  | slashBeforeStar
  | bareStar
  | starDefault
  | starTwice
  | doubleStarDefault
  | afterDoubleStar
  | missingDefault
  deriving DecidableEq

/-- A character with its code point in at least four hexadecimal digits. -/
def codePoint (c : Char) : String :=
  let digits := Nat.toDigits 16 c.toNat
  "U+" ++ String.ofList ((List.replicate (4 - digits.length) '0' ++ digits).map Char.toUpper)

/-- The wording of a complaint. -/
def Complaint.message : Complaint → String
  | .syntactic => "invalid syntax"
  | .zeroByte => "source code string cannot contain null bytes"
  | .unmatched c => s!"unmatched '{c}'"
  | .mismatched c o none => s!"closing parenthesis '{c}' does not match opening parenthesis '{o}'"
  | .mismatched c o (some line) =>
    s!"closing parenthesis '{c}' does not match opening parenthesis '{o}' on line {line}"
  | .neverClosed c => s!"'{c}' was never closed"
  | .tooDeep => "too many nested parentheses"
  | .unterminated true line =>
    s!"unterminated triple-quoted string literal (detected at line {line})"
  | .unterminated false line => s!"unterminated string literal (detected at line {line})"
  | .badNumber kind => s!"invalid {kind} literal"
  | .badDigit c kind => s!"invalid digit '{c}' in {kind} literal"
  | .leadingZeros =>
    "leading zeros in decimal integer literals are not permitted; " ++
      "use an 0o prefix for octal integers"
  | .tooManyDigits n =>
    s!"Exceeds the limit (4300 digits) for integer string conversion: value has {n} digits; use " ++
      "sys.set_int_max_str_digits() to increase the limit - Consider hexadecimal for huge " ++
      "integer literals to avoid decimal conversion limits."
  | .badCharacter c => s!"invalid character '{c}' ({codePoint c})"
  | .hiddenCharacter c => s!"invalid non-printable character {codePoint c}"
  | .strayBackslash => "unexpected character after line continuation character"
  | .unexpectedEnd => "unexpected EOF while parsing"
  | .unexpectedIndent => "unexpected indent"
  | .unexpectedUnindent => "unexpected unindent"
  | .badUnindent => "unindent does not match any outer indentation level"
  | .badEscape first last what =>
    s!"(unicode error) 'unicodeescape' codec can't decode bytes in position {first}-{last}: {what}"
  | .badByteEscape position => s!"(value error) invalid \\x escape at position {position}"
  | .byteNotAscii => "bytes can only contain ASCII literal characters"
  | .mixedTexts => "cannot mix bytes and nonbytes literals"
  | .missingComma => "invalid syntax. Perhaps you forgot a comma?"
  | .missingElse => "expected 'else' after 'if' expression"
  | .missingParentheses name =>
    s!"Missing parentheses in call to '{name}'. Did you mean {name}(...)?"
  | .assignmentInside => "invalid syntax. Maybe you meant '==' or ':=' instead of '='?"
  | .assignmentTo what => "cannot assign to " ++ what
  | .assignmentToHere what => s!"cannot assign to {what} here. Maybe you meant '==' instead of '='?"
  | .walrusWith what => "cannot use assignment expressions with " ++ what
  | .bareStarredPlace => "Invalid star expression"
  | .starredGroup => "cannot use starred expression here"
  | .doubleStarredGroup => "cannot use double starred expression here"
  | .starredValue => "cannot use a starred expression in a dictionary value"
  | .missingValue => "expression expected after dictionary key and ':'"
  | .missingColon => "':' expected after dictionary key"
  | .starredComprehension => "iterable unpacking cannot be used in comprehension"
  | .unpackedComprehension => "dict unpacking cannot be used in dict comprehension"
  | .bareTarget => "did you forget parentheses around the comprehension target?"
  | .bareGenerator => "Generator expression must be parenthesized"
  | .starAfterDoubleStar =>
    "iterable argument unpacking follows keyword argument unpacking"
  | .positionalAfterKeyword => "positional argument follows keyword argument"
  | .positionalAfterUnpacking => "positional argument follows keyword argument unpacking"
  | .keywordExpression => "expression cannot contain assignment, perhaps you meant \"==\"?"
  | .defaultThenPlain => "non-default argument follows default argument"
  | .parenthesizedParameters => "Lambda expression parameters cannot be parenthesized"
  | .slashFirst => "at least one argument must precede /"
  | .slashTwice => "/ may appear only once"
  | .slashAfterStar => "/ must be ahead of *"
  | .slashBeforeStar => "expected comma between / and *"
  | .bareStar => "named arguments must follow bare *"
  | .starDefault => "var-positional argument cannot have default value"
  | .starTwice => "* argument may appear only once"
  | .doubleStarDefault => "var-keyword argument cannot have default value"
  | .afterDoubleStar => "arguments cannot follow var-keyword argument"
  | .missingDefault => "expected default value expression"

/-- How the tokens of a text end. -/
inductive Ending where
  /-- With a last token. -/
  | whole
  /-- At a fault that matters if it is reached. -/
  | broken (why : Complaint)
  /-- At a fault that matters for any text that is no expression. -/
  | faulty (why : Complaint)
  deriving DecidableEq

/-- The tokens of a text, how they end, and the innermost bracket that is open there, with its line.
`meetsEnd` tells that the end of the text has been met as soon as the last token is read. -/
structure Scanned where
  tokens : Array Token
  ending : Ending
  bracket : Option (Char × Nat)
  meetsEnd : Bool

end SourceSurvey.Expression
