import SourceSurvey.Rule.Shape
import SourceSurvey.SourceFile

/-!
# Rules for risky lines

A rule is a list of shapes with a verdict.  Every rule is tried on every line, so one line may give
several findings; they come in the order of the lines and, within a line, in the order of the rules.

* `Severity`, `Rule`, `Rule.all`;
* `Finding`, `findings`, `securityScore`;
* `FileFindings`, `scan`.
-/

namespace SourceSurvey

/-- How bad a finding is. -/
inductive Severity where
  | low
  | medium
  | high
  | critical
  deriving DecidableEq

/-- The name of a severity. -/
def Severity.text : Severity → String
  | .low => "low"
  | .medium => "medium"
  | .high => "high"
  | .critical => "critical"

/-- A rule: the shapes of which one has to occur, and the verdict on the line. -/
structure Rule where
  shapes : List (List Rule.Piece)
  category : String
  severity : Severity
  warning : String
  name : String

/-- Whether a rule applies to a line. -/
def Rule.fires (rule : Rule) (line : List Char) : Bool := rule.shapes.any (Rule.occurs · line)

namespace Rule

/-- A word in front of a shape. -/
def withWord (w : String) (rest : List Piece) : List Piece := .word w.toList :: rest

/-- A word in either case in front of a shape. -/
def withLetters (w : String) (rest : List Piece) : List Piece := .letters w.toList :: rest

/-- Blanks and an opening parenthesis. -/
def call : List Piece := [.blanks, .word ['(']]

/-- Blanks and an opening parenthesis, blanks and a quote. -/
def quotedCall : List Piece := call ++ [.blanks, .oneOf ['"', '\'']]

/-- Blanks and a sign of assignment. -/
def assigned : List Piece := [.blanks, .oneOf [':', '=']]

/-- The start of a placeholder in a template. -/
def placeholder : Piece := .word ['$', '\x7b']

/-- The rules, in the order in which they are tried. -/
def all : List Rule :=
  [ ⟨[withWord "eval" call], "code-injection", .critical,
      "Use of eval() allows arbitrary code execution", "no-eval"⟩,
    ⟨[withWord "innerHTML" [.blanks, .word ['=']]], "xss", .high,
      "Direct innerHTML assignment can lead to XSS", "no-inner-html"⟩,
    ⟨[withWord "document.write" call], "xss", .high,
      "document.write() can lead to XSS", "no-document-write"⟩,
    ⟨[withWord "dangerouslySetInnerHTML" []], "xss", .high,
      "dangerouslySetInnerHTML can lead to XSS", "react-dangerously-set-inner-html"⟩,
    ⟨[withWord ".exec" (call ++ [.blanks, placeholder])], "code-injection", .high,
      "Dynamic code execution with template literals", "no-dynamic-injection"⟩,
    ⟨[withWord "new" (.someBlanks :: withWord "Function" call)], "code-injection", .high,
      "Function constructor allows arbitrary code execution", "no-new-func"⟩,
    ⟨[withWord "setTimeout" quotedCall, withWord "setInterval" quotedCall],
      "code-injection", .medium,
      "setTimeout/setInterval with string can execute code", "no-implied-eval"⟩,
    ⟨[withWord "console.log" [], withWord "console.debug" [], withWord "console.info" []],
      "information-leak", .low, "Console logging can leak sensitive information", "no-console"⟩,
    ⟨[withWord "process.env." []], "env-config", .low,
      "Environment variable usage", "no-process-env"⟩,
    ⟨[withLetters "password" assigned], "sensitive-data", .medium,
      "Possible hardcoded password", "no-hardcoded-passwords"⟩,
    ⟨[withLetters "api" (.maybe ['_', '-'] :: withLetters "key" assigned)], "sensitive-data", .high,
      "Possible hardcoded API key", "no-hardcoded-secrets"⟩,
    ⟨[withLetters "secret" assigned], "sensitive-data", .high,
      "Possible hardcoded secret", "no-hardcoded-secrets"⟩,
    ⟨[withLetters "token" assigned], "sensitive-data", .medium,
      "Possible hardcoded token", "no-hardcoded-secrets"⟩,
    ⟨[withLetters "md5" call], "weak-crypto", .medium,
      "MD5 is a weak hash algorithm", "no-md5"⟩,
    ⟨[withLetters "sha1" call], "weak-crypto", .medium,
      "SHA1 is a weak hash algorithm", "no-sha1"⟩,
    ⟨[withLetters "query" [.blanks, .word ['+'], .blanks, .oneOf ['"', '\'']],
        [.oneOf ['"', '\''], .blanks, .word ['+'], .blanks, .letters "query".toList]],
      "sql-injection", .critical,
      "Possible SQL injection via string concatenation", "no-sql-injection"⟩,
    ⟨[withLetters "path" [.blanks, .word ['+'], .blanks, placeholder],
        withLetters "path" [.blanks, .word ['+', '='], .anything, .letters "req".toList]],
      "path-traversal", .high, "Possible path traversal vulnerability", "no-path-traversal"⟩ ]

end Rule

/-- A rule that applies to a line. -/
structure Finding where
  rule : Rule
  line : Nat

/-- The wording of a finding. -/
def Finding.message (f : Finding) : String := s!"{f.rule.warning} at line {f.line}"

/-- The findings of a list of lines, of which the first has the number `number`. -/
def findingsFrom (rules : List Rule) (number : Nat) : List (List Char) → List Finding
  | [] => []
  | line :: rest =>
    (rules.filter (·.fires line)).map (⟨·, number⟩) ++ findingsFrom rules (number + 1) rest

/-- The findings of a text. -/
def findings (rules : List Rule) (text : List Char) : List Finding :=
  findingsFrom rules 1 (linesOf text)

/-- The score of a file: 100 less 10 for each finding and 30 more for each critical one, and not
below zero. -/
def securityScore (total critical : Nat) : Int :=
  max 0 (min 100 (100 - 10 * (total : Int) - 30 * critical))

/-- The findings of one file. -/
structure FileFindings where
  file : String
  findings : List Finding
  score : Int

/-- The findings of a file; none for a clean one. -/
def scan (rules : List Rule) (f : SourceFile) : Option FileFindings :=
  match findings rules f.content.toList with
  | [] => none
  | found =>
    some ⟨f.path, found, securityScore found.length (found.countP (·.rule.severity == .critical))⟩

end SourceSurvey
