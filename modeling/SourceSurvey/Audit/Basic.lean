import SourceSurvey.Audit.Tool
import SourceSurvey.Manifest
import SourceSurvey.Settings.Basic

/-!
# Auditing dependencies

An auditor reads the manifest of a project, looks for a lock file, and puts two questions about the
dependencies to its clients.  A question that gets no answer leaves the matter unknown, which is not
the same as none.

* `Client`: whoever answers a question, in time or too late;
* `Auditor`, with `Auditor.ofSettings`;
* `Auditor.audit`: the dependency part of a report.
-/

namespace SourceSurvey

/-- Whoever answers a question about the named dependencies of a project: the package manager within
the given seconds, someone else at once, or nobody in time. -/
inductive Client where
  | packageManager (timeout : Value)
  | prompt (answer : Route → List String → Traced Value)
  | late

/-- An auditor: its two clients, the lock files it knows, and the seconds it waits for each
client. -/
structure Auditor where
  vulnerabilities : Option Client
  outdated : Option Client
  lockFiles : List String
  timeout : Option Value

namespace Audit

/-- A failure of a client as a fault of the audit.  Faults of the audit and interrupts stay what
they are. -/
def blamed (q : Question) (timeout : Option Value) : Failure → Failure
  | .fault (.audit tool reason) => .fault (.audit tool reason)
  | .interrupt => .interrupt
  | .outside label message =>
    match timeout, label with
    | some t, "TimeoutError" => unanswered q.text (overdue t)
    | _, _ => unanswered q.text s!"{label}: {message}"
  | f => unanswered q.text s!"{f.label}: {f.message}"

/-- Puts a question to a client, which may take at most the given seconds. -/
def put (w : World) (q : Question) (timeout : Option Value) (client : Client) (project : Route)
    (names : List String) (decode : String → Except Failure Value := readJson) : Traced Value :=
  let blame (x : Traced Value) : Traced Value :=
    x.rescue fun f => some (Traced.fail (blamed q timeout f))
  match client with
  | .packageManager seconds => blame (ask w q seconds project names decode)
  | .prompt answer => blame (answer project names)
  | .late => Traced.fail (unanswered q.text (overdue (timeout.getD .null)))

/-- Puts a question to a client if there is one; without an answer the survey goes on. -/
def lookUp (w : World) (q : Question) (timeout : Option Value) (client : Option Client)
    (project : Route) (names : List String)
    (decode : String → Except Failure Value := readJson) : Traced (Option Value) :=
  match client with
  | none => return none
  | some c =>
    (do return some (← put w q timeout c project names decode) : Traced (Option Value)).rescue fun
      | .fault (.audit tool reason) => some do
        Traced.log .warning
          s!"Continuing without {q.subject} data: {(Fault.audit tool reason).text}"
        return none
      | _ => none

/-- Notes the number of vulnerabilities of a dependency, if the counts have one. -/
def noteCount (counts : Value) (d : DependencyEntry) : Except Misuse DependencyEntry := do
  if ← counts.holdsText d.name.text then
    return { d with vulnerabilities := .int (← (← counts.field d.name.text).toInteger) }
  else return d

/-- Notes whether a dependency is among the outdated ones. -/
def noteOutdated (names : Value) (d : DependencyEntry) : Except Misuse DependencyEntry := do
  return { d with outdated := .bool (← names.holdsText d.name.text) }

/-- Notes an answer at each dependency. -/
def noteAll (note : Value → DependencyEntry → Except Misuse DependencyEntry) (answer : Option Value)
    (dependencies : List DependencyEntry) : Except Misuse (List DependencyEntry) :=
  match answer with
  | none => .ok dependencies
  | some a => dependencies.mapM (note a)

end Audit

namespace Auditor

/-- An auditor without clients. -/
def silent : Auditor := ⟨none, none, Manifest.lockFiles, none⟩

/-- The auditor that the settings ask for; it lets the package manager answer. -/
def ofSettings (s : Settings) : Auditor :=
  let client (enabled timeout : Value) : Option Client :=
    if enabled.truthy then some (.packageManager timeout) else none
  { silent with
    vulnerabilities := client s.auditEnabled s.auditTimeout
    outdated := client s.outdatedEnabled s.outdatedTimeout }

/-- Puts both questions about dependencies. -/
def enrich (w : World) (a : Auditor) (project : Route) (dependencies : List DependencyEntry)
    (decode : String → Except Failure Value := readJson) : Traced (List DependencyEntry) := do
  if dependencies.isEmpty then return []
  let names := dependencies.map (·.name.text)
  let counts ← Audit.lookUp w .vulnerabilities a.timeout a.vulnerabilities project names decode
  let counted ← Audit.noteAll Audit.noteCount counts dependencies
  let outdated ← Audit.lookUp w .outdated a.timeout a.outdated project names decode
  Audit.noteAll Audit.noteOutdated outdated counted

/-- The dependencies of the manifest of a project; a manifest that cannot be read counts as
empty. -/
def listed (w : World) (project : Route) (decode : String → Except Failure Value := readJson) :
    Traced (List DependencyEntry) := do
  let manifest := project.child Manifest.fileName
  if ← w.reaches manifest then
    (liftM (Manifest.read w manifest decode) : Traced (List DependencyEntry)).rescue fun
      | .fault (.manifest path reason) => some do
        Traced.log .warning (Fault.manifest path reason).text
        return []
      | _ => none
  else return []

/-- The dependency part of the report about a project.  One decoder reads the manifest and the
answers of the package manager. -/
def audit (w : World) (a : Auditor) (path : String)
    (decode : String → Except Failure Value := readJson) : Traced DependencyPart := do
  let project := Route.ofText path
  let locked ← Manifest.hasLockFile w project a.lockFiles
  let dependencies ← a.enrich w project (← listed w project decode) decode
  return ⟨dependencies, .bool locked⟩

end Auditor

end SourceSurvey
