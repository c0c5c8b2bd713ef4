import SourceSurvey.CommandLine.Argument
import SourceSurvey.Report.Format
import SourceSurvey.Survey

/-!
# The command line

`run` surveys a project as the arguments say, and gives the exit code and what is printed.  The code
is zero for a report, one for a report that is asked to fail and for errors, two for a wrong command
line, and 130 for an interrupt.

How arguments are read and how things look on a display is no part of the program: a run takes both
from its `Front`, and `Front.usual` is the one it has at a terminal.
-/

namespace SourceSurvey.CommandLine

/-- The version of the program. -/
def version : String := "0.1.0"

/-- The width of messages about errors. -/
def messageWidth : Nat := 400

/-- The findings that make a run fail. -/
inductive FailOn where
  | critical
  | any
  deriving DecidableEq

/-- What the arguments ask for. -/
structure Options where
  path : Option String
  json : Bool
  sections : List Section
  noAudit : Bool
  outdated : Bool
  failOn : Option FailOn
  config : Option String
  workers : Option Int
  verbose : Bool
  showVersion : Bool

/-- A letter without its case; long s and the Kelvin sign count as the letters they look like. -/
def foldLetter (c : Char) : Char :=
  if c = '\u017f' then 's' else if c = '\u212a' then 'k' else c.toLower

/-- A choice among named things, without regard to case. -/
def choose {α : Type} (choices : List (String × α)) (name : String) : Except Flaw α :=
  match choices.lookup (name.map foldLetter) with
  | some a => .ok a
  | none => .error .badValue

/-- The choices of sections. -/
def sectionChoices : List (String × List Section) :=
  (Section.everything, Section.all) :: Section.all.map fun s => (s.text, [s])

/-- The choices of findings to fail on. -/
def failChoices : List (String × FailOn) := [("critical", .critical), ("any", .any)]

/-- Reads a number of workers. -/
def readWorkers (text : String) : Except Flaw Int :=
  match Text.readCount text.toList with
  | some n => if 1 ≤ n ∧ n ≤ 32 then .ok n else .error .badValue
  | none => .error .badValue

/-- Refuses a path that is there but is no directory or cannot be read, and one that no file can
have. -/
def checkProject (w : World) (path : String) : Except Flaw Unit :=
  match w.find (Route.ofText path) with
  | .error .zeroInPath | .ok (.file _) => .error .badValue
  | .error _ => .ok ()
  | .ok _ => if w.accessDenied then .error .badValue else .ok ()

/-- Refuses a path that is not there, is a directory or cannot be read. -/
def checkConfig (w : World) (path : String) : Except Flaw Unit :=
  match w.find (Route.ofText path) with
  | .ok (.file _) => if w.accessDenied then .error .badValue else .ok ()
  | _ => .error .badValue

/-- Does something with the value of an option, if it is given. -/
def withValue {α : Type} (given : Given) (name : Name) (read : String → Except Flaw α) :
    Except Flaw (Option α) :=
  match value? given name with
  | none => .ok none
  | some text => (read text).map some

/-- What arguments ask for in a world. -/
def Options.read (w : World) (arguments : List String) : Except Flaw Options := do
  let given ← CommandLine.read arguments
  let path ← withValue given .path fun text => (checkProject w text).map fun _ => text
  let sections ← withValue given .part (choose sectionChoices)
  let failOn ← withValue given .failOn (choose failChoices)
  let config ← withValue given .config fun text => (checkConfig w text).map fun _ => text
  let workers ← withValue given .workers readWorkers
  return ⟨path, isGiven given .json, sections.getD Section.all, isGiven given .noAudit,
    isGiven given .outdated, failOn, config, workers, isGiven given .verbose,
    isGiven given .version⟩

/-- The settings that the arguments override. -/
def Options.overrides (o : Options) : Settings.Overrides :=
  ⟨(o.workers.toList.map fun n => ("workers", .int n)) ++
    (if o.noAudit then [("audit_enabled", .bool false)] else []) ++
    (if o.outdated then [("outdated_enabled", .bool true)] else []) ++
    (if o.verbose then [("verbose", .bool true)] else []), none⟩

/-- Whether a report makes the run fail. -/
def fails (failOn : Option FailOn) (r : Report) : Except Misuse Bool :=
  match failOn with
  | none => .ok false
  | some .critical => r.summary.criticalIssues.test .gt (.int 0)
  | some .any => r.summary.issues.test .gt (.int 0)

/-- The end of a run: the exit code and what is printed. -/
structure Finish where
  code : Nat
  output : String
  deriving DecidableEq

/-- A message about an error as it is printed. -/
def errorLine (front message : String) : String :=
  let markup := s!"[red]{front}:[/red] " ++ String.ofList (Layout.escape message.toList)
  match Layout.paragraph messageWidth markup with
  | .ok text => text
  | .error f => f.message

/-- What stands between a run and its user: the reader of the arguments, which can end a run by
itself, the display of a report, and the display of a message about an error. -/
structure Front where
  read : World → List String → Except Finish Options
  display : Nat → List Section → Report → Except Failure String
  errorLine : String → String → String

/-- The front that a run has at a terminal. -/
def Front.usual : Front where
  read w arguments := (Options.read w arguments).mapError fun _ => ⟨2, ""⟩
  display := Display.report
  errorLine := CommandLine.errorLine

/-- The end of a run that fails. -/
def Finish.ofFailure (front : Front) : Failure → Finish
  | .interrupt => ⟨130, "\nAnalysis interrupted\n"⟩
  | .fault f => ⟨1, front.errorLine "Error" f.text⟩
  | f => ⟨1, front.errorLine "Unexpected error" f.message⟩

/-- The project that the arguments name, or the current directory. -/
def Options.project (w : World) (o : Options) : String :=
  match o.path with
  | some path => (Route.ofText path).text
  | none => w.current.text

/-- Surveys a project and prints the report. -/
def Options.survey (w : World) (o : Options) (front : Front) : Traced Finish := do
  let settings ← Settings.load w (o.config.map Route.ofText) o.overrides
  let report ← surveyWith w settings (o.project w)
  let text ← (if o.json then Format.json else .display).print w.width o.sections report
    front.display
  return ⟨if ← fails o.failOn report then 1 else 0, text⟩

/-- Runs the program with the given arguments. -/
def run (w : World) (arguments : List String) (front : Front := .usual) : Traced Finish :=
  match front.read w arguments with
  | .error finish => return finish
  | .ok o =>
    if o.showVersion then return ⟨0, s!"Code Insight version {version}\n"⟩
    else (o.survey w front).rescue fun f => some (return Finish.ofFailure front f)

end SourceSurvey.CommandLine
