import SourceSurvey.Value.Access
import SourceSurvey.Value.Text

/-!
# Faults

The faults that the survey itself reports: a project that cannot be read, settings that make no
sense, an audit that gives no answer.  Each has a headline and details; its text is the headline
with the details in parentheses.

* `Fault`, with `label`, `ancestry`, `headline`, `details` and `particulars`;
* `Fault.describe`, the text, which exists unless the headline or the details are of the wrong kind;
* `Fault.ofArguments`, a fault from loosely typed arguments.
-/

namespace SourceSurvey

/-- The families of plain faults. -/
inductive Family where
  | general
  | analysis
  | configuration
  deriving DecidableEq

/-- A fault.  Plain ones carry their headline and details; the others say what they are about. -/
inductive Fault where
  | plain (family : Family) (headline details : Value)
  | fileAccess (path reason : Value)
  | manifest (path reason : Value)
  | audit (tool reason : Value)
  | badPath (path reason : Value)
  | badSetting (key value reason : Value)
  deriving DecidableEq

namespace Fault

/-- A plain fault without details. -/
def ofText (text : String) : Fault := .plain .general (.str text) .null

/-- The name of a family. -/
def familyLabel : Family → String
  | .general => "CodeInsightError"
  | .analysis => "AnalysisError"
  | .configuration => "ConfigurationError"

/-- The names of a family and of what it belongs to. -/
def familyAncestry : Family → List String
  | .general => ["CodeInsightError"]
  | .analysis => ["AnalysisError", "CodeInsightError"]
  | .configuration => ["ConfigurationError", "CodeInsightError"]

/-- The name of a fault's class. -/
def label : Fault → String
  | .plain family _ _ => familyLabel family
  | .fileAccess _ _ => "FileAccessError"
  | .manifest _ _ => "ManifestParseError"
  | .audit _ _ => "AuditError"
  | .badPath _ _ => "InvalidPathError"
  | .badSetting _ _ _ => "InvalidConfigError"

/-- The family of a fault. -/
def family : Fault → Family
  | .plain family _ _ => family
  | .fileAccess _ _ | .manifest _ _ | .audit _ _ => .analysis
  | .badPath _ _ | .badSetting _ _ _ => .configuration

/-- The names of the classes that a fault belongs to, the nearest first. -/
def ancestry (f : Fault) : List String :=
  (match f with
    | .plain _ _ _ => []
    | _ => [f.label]) ++ familyAncestry f.family ++ ["Exception", "BaseException", "object"]

/-- What a fault says first. -/
def headline : Fault → Value
  | .plain _ headline _ => headline
  | .fileAccess path _ => .str ("Cannot access file: " ++ path.text)
  | .manifest path _ => .str ("Failed to parse manifest: " ++ path.text)
  | .audit tool _ => .str ("Dependency audit failed: " ++ tool.text)
  | .badPath path _ => .str ("Invalid path: " ++ path.text)
  | .badSetting key value _ => .str ("Invalid configuration for " ++ key.text ++ ": " ++ value.text)

/-- What a fault is about, as it was given. -/
def particulars : Fault → List (String × Value)
  | .plain _ _ _ => []
  | .fileAccess path reason | .manifest path reason => [("filepath", path), ("reason", reason)]
  | .audit tool reason => [("tool", tool), ("reason", reason)]
  | .badPath path reason => [("path", path), ("reason", reason)]
  | .badSetting key value reason => [("key", key), ("value", value), ("reason", reason)]

/-- The details of a fault; empty ones count as none. -/
def details : Fault → Value
  | .plain _ _ details => if details.truthy then details else .obj []
  | .fileAccess path reason | .manifest path reason =>
    .obj [("filepath", .str path.text), ("reason", reason)]
  | .audit tool reason => .obj [("tool", tool), ("reason", reason)]
  | .badPath path reason => .obj [("path", .str path.text), ("reason", reason)]
  | .badSetting key value reason =>
    .obj [("key", key), ("value", .str value.text), ("reason", reason)]

/-- The text of a fault. -/
def describe (f : Fault) : Except Misuse String :=
  match f.details with
  | .obj [] =>
    match f.headline with
    | .str s => .ok s
    | v => .error (.wordingNotText v.kind)
  | .obj fields =>
    let parts := fields.map fun (k, v) => k ++ "=" ++ v.text
    .ok (f.headline.text ++ " (" ++ String.intercalate ", " parts ++ ")")
  | v => .error (.noOperation v.kind "items")

/-- The text of a fault, also of one that has none of its own. -/
def text (f : Fault) : String :=
  match f.describe with
  | .ok s => s
  | .error m => m.message

/-- The names of the required arguments behind those that are given. -/
def missing (record : String) (names : List String) (given : Nat) : Misuse :=
  .missingArguments (record ++ ".__init__") (names.drop given)

/-- A fault about two things from its arguments. -/
def ofTwo (record : String) (names : List String) (make : Value → Value → Fault) :
    List Value → Except Misuse Fault
  | [a, b] => .ok (make a b)
  | args =>
    if args.length < 2 then .error (missing record names args.length)
    else .error (.surplusArguments (record ++ ".__init__") 3 3 (args.length + 1))

/-- A plain fault from its arguments. -/
def ofPlain (family : Family) : List Value → Except Misuse Fault
  | [headline] => .ok (.plain family headline .null)
  | [headline, details] => .ok (.plain family headline details)
  | [] => .error (missing (familyLabel .general) ["message"] 0)
  | args => .error (.surplusArguments (familyLabel .general ++ ".__init__") 2 3 (args.length + 1))

/-- A fault about a setting from its arguments. -/
def ofSetting : List Value → Except Misuse Fault
  | [key, value, reason] => .ok (.badSetting key value reason)
  | args =>
    if args.length < 3 then
      .error (missing "InvalidConfigError" ["key", "value", "reason"] args.length)
    else .error (.surplusArguments "InvalidConfigError.__init__" 4 4 (args.length + 1))

/-- The fault of the given class with the given arguments; none for an unknown class. -/
def ofArguments (label : String) (args : List Value) : Option (Except Misuse Fault) :=
  match label with
  | "CodeInsightError" => some (ofPlain .general args)
  | "AnalysisError" => some (ofPlain .analysis args)
  | "ConfigurationError" => some (ofPlain .configuration args)
  | "FileAccessError" => some (ofTwo label ["filepath", "reason"] .fileAccess args)
  | "ManifestParseError" => some (ofTwo label ["filepath", "reason"] .manifest args)
  | "AuditError" => some (ofTwo label ["tool", "reason"] .audit args)
  | "InvalidPathError" => some (ofTwo label ["path", "reason"] .badPath args)
  | "InvalidConfigError" => some (ofSetting args)
  | _ => none

end Fault

end SourceSurvey
