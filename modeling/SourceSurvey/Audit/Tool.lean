import SourceSurvey.Report.Basic
import SourceSurvey.Text.Class
import SourceSurvey.World

/-!
# Asking the package manager

Two questions can be put to the package manager of a project: which dependencies have known
vulnerabilities, and which have newer releases.  It answers with a JSON document.  Its exit code
says nothing about success, since it also fails when it has something to report.

* `Question`: the two questions;
* `runTool`: one run, and the document that it gives;
* `ask`: the number of vulnerabilities of each dependency, or the names of the outdated ones.
-/

namespace SourceSurvey.Audit

/-- The two questions about the dependencies of a project. -/
inductive Question where
  | vulnerabilities
  | outdated
  deriving DecidableEq

namespace Question

/-- The name of a question. -/
def text : Question → String
  | .vulnerabilities => "audit"
  | .outdated => "outdated"

/-- What is missing when a question gets no answer. -/
def subject : Question → String
  | .vulnerabilities => "vulnerability"
  | .outdated => "outdated"

/-- The words that put a question to the package manager. -/
def words (q : Question) : List String := ["npm", q.text, "--json"]

/-- The seconds that an answer may take when nothing is said. -/
def timeout : Question → Value
  | .vulnerabilities => .int 30
  | .outdated => .int 60

end Question

/-- An audit that gives no answer. -/
def unanswered (tool reason : String) : Failure := .fault (.audit (.str tool) (.str reason))

/-- The reason of an audit that took too long. -/
def overdue (timeout : Value) : String := s!"timed out after {timeout.text}s"

/-- The reason for which a document is no answer, if the package manager reports an error of its
own. -/
def reportedError? (document : Value) : Option String :=
  match document with
  | .obj fields =>
    match fields.lookup "error" with
    | some (.obj error) =>
      let reasons := ["summary", "code"].filterMap fun key => error.lookup key
      some (((reasons.find? Value.truthy).getD (.str "npm error")).text)
    | _ => none
  | _ => none

/-- The document in the two outputs of a run, by a decoder of JSON texts. -/
def documentOf (tool : String) (output errors : Option String) (code : Int)
    (decode : String → Except Failure Value := readJson) : Except Failure Value :=
  let text := Text.trimmed (output.getD "")
  if text.isEmpty then
    let complaint := Text.trimmed (errors.getD "")
    .error (unanswered tool (if complaint.isEmpty then s!"no output (exit code {code})"
      else complaint))
  else
    match decode text with
    | .error (.notJson document what left) =>
      .error (unanswered tool
        ("invalid JSON output: " ++ (Failure.notJson document what left).message))
    | .error f => .error f
    | .ok document =>
      match reportedError? document with
      | some reason => .error (unanswered tool reason)
      | none => .ok document

/-- Runs the package manager in a directory. -/
def runTool (w : World) (words : List String) (project : Route) (timeout : Value)
    (decode : String → Except Failure Value := readJson) : Traced Value := do
  let tool := String.intercalate " " words
  Traced.note (.call ⟨words, project.text, timeout⟩)
  match w.answerTo ⟨words, project.text, timeout⟩ with
  | .missing => Traced.fail (unanswered tool "npm executable not found")
  | .timedOut => Traced.fail (unanswered tool (overdue timeout))
  | .denied => Traced.fail (unanswered tool (Failure.unreachable .denied "npm").message)
  | .interrupted => Traced.fail .interrupt
  | .broken label message => Traced.fail (.outside label message)
  | .done output errors code => documentOf tool output errors code decode

/-- A run whose document has to be an object. -/
def runForObject (w : World) (words : List String) (project : Route) (timeout : Value)
    (decode : String → Except Failure Value := readJson) : Traced (List (String × Value)) := do
  match ← runTool w words project timeout decode with
  | .obj fields => return fields
  | _ => Traced.fail (unanswered (String.intercalate " " words) "unexpected report shape")

/-- The number of vulnerabilities in an entry: one for each cause, if it names causes. -/
def countOf (entry : Value) : Except Misuse Nat :=
  if !entry.truthy then .ok 0
  else
    match entry with
    | .obj fields =>
      match fields.lookup "via" with
      | some via => if via.truthy then via.size else .ok fields.length
      | none => .ok fields.length
    | .list items => .ok items.length
    | _ => .ok 1

/-- The number of vulnerabilities of each dependency; one without an entry has none. -/
def countsOf (entries : Value) : List String → List (String × Value) →
    Except Misuse (List (String × Value))
  | [], counts => .ok counts
  | name :: rest, counts => do
    let entry ← entries.fieldOr name .null
    countsOf entries rest (Value.putField name (.ofNat (← countOf entry)) counts)

/-- The answer to a question in the document of the package manager: the number of vulnerabilities
of each dependency, or the names of the outdated ones. -/
def answerIn (fields : List (String × Value)) (names : List String) : Question → Except Misuse Value
  | .vulnerabilities => do
    let entries := (fields.lookup "vulnerabilities").getD .null
    return .obj (← countsOf (if entries.truthy then entries else .obj []) names [])
  | .outdated => return .ofTexts (fields.map (·.1))

/-- Puts a question about the named dependencies of a project to the package manager. -/
def ask (w : World) (q : Question) (timeout : Value) (project : Route) (names : List String)
    (decode : String → Except Failure Value := readJson) : Traced Value := do
  answerIn (← runForObject w q.words project timeout decode) names q

end SourceSurvey.Audit
