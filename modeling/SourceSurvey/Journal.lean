import SourceSurvey.Trace
import SourceSurvey.Tree.Edit

/-!
# The journal

Log records of the program go to the handlers of its journal: always to the display, and to a file
when one is named.  Setting the journal up again replaces its handlers and its level; a set-up that
fails changes nothing.

A record is logged through a logger, and handed on from there along the loggers above it.  It comes
to the journal if the program's own logger is among them.  A file takes the records that its
encoding can hold.

* `loggerName`: the name under which someone logs;
* `Logger.parent?`, the next logger above one, and `Logger.isHeard`;
* `Entry`, one log record, and its line in a file;
* `Journal`, with `Journal.setUp` and `Journal.add`;
* `Logbook`, a process with its journal, and what calls do to it, one after the other.
-/

namespace SourceSurvey

open Text (CodePoint Wide)

/-- The name of the program's own logger. -/
def rootLogger : Wide := .ofText "code_insight"

/-- What stands between the parts of a name. -/
def point : CodePoint := .ofChar '.'

/-- The name under which someone logs; names that do not begin with the program's name are put below
it. -/
def loggerName : Option Wide → Wide
  | none => rootLogger
  | some name => if rootLogger.isPrefixOf name then name else rootLogger ++ point :: name

namespace Logger

/-- The fronts of a name before its points, the last point first.  The name and its fronts are read
from their ends.  What stands right before a point that counts is passed over, even if it is a
point, and a point at the very beginning has nothing before it. -/
def stems : Wide → List Wide
  | [] => []
  | [_] => []
  | c :: d :: rest => if c = point then (d :: rest) :: stems rest else stems (d :: rest)

/-- The names at which a logger looks for the one above it, the nearest first. -/
def above (name : Wide) : List Wide := (stems name.reverse).map List.reverse

/-- The next logger above one, among the loggers that there are; the program's own is always
there. -/
def parent? (loggers : List Wide) (name : Wide) : Option Wide :=
  (above name).find? fun up => up = rootLogger || loggers.contains up

theorem length_lt_of_mem_stems {name stem : Wide} (h : stem ∈ stems name) :
    stem.length < name.length := by
  induction name using stems.induct with
  | case1 => cases h
  | case2 c => cases h
  | case3 d rest ih =>
    rw [stems, if_pos rfl] at h
    cases h with
    | head => exact Nat.lt_succ_self _
    | tail _ h =>
      have hlater := ih h
      simp only [List.length_cons]
      omega
  | case4 c d rest hc ih =>
    rw [stems, if_neg hc] at h
    exact Nat.lt_succ_of_lt (ih h)

theorem length_lt_of_parent? {loggers : List Wide} {name up : Wide}
    (h : parent? loggers name = some up) : up.length < name.length := by
  obtain ⟨stem, hstem, rfl⟩ := List.mem_map.1 (List.mem_of_find?_eq_some h)
  simpa using length_lt_of_mem_stems hstem

/-- Whether the records of a logger are handed on to the program's own. -/
def isHeard (loggers : List Wide) (name : Wide) : Bool :=
  if name = rootLogger then true
  else
    match _h : parent? loggers name with
    | none => false
    | some up => isHeard loggers up
termination_by name.length
decreasing_by exact length_lt_of_parent? _h

end Logger

/-- One log record. -/
structure Entry where
  logger : Wide
  level : Level
  message : Wide
  deriving DecidableEq

/-- The line of a record in a file, given the time. -/
def Entry.line (e : Entry) (time : String) : Wide :=
  .ofText s!"{time} - " ++ e.logger ++ .ofText s!" - {e.level.text} - " ++ e.message ++ .ofText "\n"

/-- Where log records go. -/
inductive Handler where
  | display
  | file (place : Place)
  deriving DecidableEq

/-- What the bytes of a line do to the files: they go to the end of the handler's own file.  A line
without bytes is dropped. -/
def Handler.write (bytes : Option ByteArray) (top : Node) : Handler → Node
  | .display => top
  | .file place =>
    match bytes with
    | some data => Tree.append top place data
    | none => top

/-- The journal: its handlers and the least level that they are given. -/
structure Journal where
  handlers : List Handler
  level : Level
  deriving DecidableEq

namespace Journal

/-- The journal before it is set up. -/
def unset : Journal := ⟨[], .warning⟩

/-- The named values of a set-up. -/
def options : List String := ["verbose", "quiet", "log_file"]

/-- Whether a named value is given and counts as true. -/
def isSet (given : List (String × Value)) (name : String) : Bool :=
  ((given.lookup name).getD .null).truthy

/-- The level that a set-up asks for; quiet wins over verbose. -/
def levelFor (given : List (String × Value)) : Level :=
  if isSet given "quiet" then .error else if isSet given "verbose" then .debug else .warning

/-- Refuses a named value that a set-up does not know. -/
def checkOptions (given : List (String × Value)) : Except Misuse Unit :=
  match given.find? fun (name, _) => !options.contains name with
  | some (name, _) => .error (.unknownField "setup_logging" name)
  | none => .ok ()

/-- Opens the log file that a path names from a directory of a tree. -/
def openLog (top : Node) (here : Place) (path : String) : Except Failure (Node × Place) :=
  let route := Route.ofText path
  let names := Tree.flatten ((if route.root = "" then here else []) ++ route.names)
  Tree.openFile top ⟨if route.root = "" then "/" else route.root, names⟩

/-- The handlers of a set-up in a directory of a tree, and the tree with the file that is opened. -/
def handlersFor (top : Node) (here : Place) (given : List (String × Value)) :
    Except Failure (Node × List Handler) :=
  if isSet given "log_file" then
    match (given.lookup "log_file").getD .null with
    | .str path => do
      let (top, place) ← openLog top here path
      return (top, [.display, .file place])
    | v => .error (.misuse (.notPath v.kind))
  else .ok (top, [.display])

/-- The journal that a set-up with named values asks for, and the tree with the file that is
opened. -/
def setUp (top : Node) (here : Place) (given : List (String × Value)) :
    Except Failure (Node × Journal) := do
  checkOptions given
  let (top, handlers) ← handlersFor top here given
  return (top, ⟨handlers, levelFor given⟩)

/-- Whether a record is given to the handlers, where there are other loggers. -/
def takes (j : Journal) (loggers : List Wide) (e : Entry) : Bool :=
  Logger.isHeard loggers e.logger && j.level.weight ≤ e.level.weight

/-- The handlers that a record is given to. -/
def receivers (j : Journal) (loggers : List Wide) (e : Entry) : List Handler :=
  if j.takes loggers e then j.handlers else []

/-- Adds a record: each handler that is given it writes its line as the encoding has it. -/
def add (j : Journal) (loggers : List Wide) (encode : Wide → Option ByteArray) (time : String)
    (e : Entry) (top : Node) : Node :=
  (j.receivers loggers e).foldl (Handler.write (encode (e.line time))) top

end Journal

/-- A process that logs: the directory it works in, the files around it, its journal, the other
loggers, and the encoding of its log files. -/
structure Logbook where
  here : Place
  top : Node
  journal : Journal
  loggers : List Wide
  encode : Wide → Option ByteArray

namespace Logbook

/-- What a process does to its logbook.  What was done before a failure stays done. -/
abbrev Act := ExceptT Failure (StateM Logbook)

/-- The logbook of a process that has not set its journal up. -/
def fresh (here : Place) (top : Node) (loggers : List Wide := [])
    (encode : Wide → Option ByteArray := Text.Utf8.encode) : Logbook :=
  ⟨here, top, .unset, loggers, encode⟩

/-- Takes a handler away. -/
def detach (handler : Handler) : Act Unit :=
  modify fun book => { book with journal.handlers := book.journal.handlers.erase handler }

/-- Adds a handler that has just been made. -/
def attach (handler : Handler) : Act Unit :=
  modify fun book => { book with journal.handlers := book.journal.handlers ++ [handler] }

/-- Sets the journal up: the new handlers are made, the old ones taken away, and the new ones and
the level put in their place. -/
def setUp (given : List (String × Value)) : Act Unit := do
  let book ← get
  let (top, wanted) ← Journal.setUp book.top book.here given
  modify fun book => { book with top := top }
  book.journal.handlers.forM detach
  wanted.handlers.forM attach
  modify fun book => { book with journal.level := wanted.level }

/-- Makes a logger. -/
def make (logger : Wide) : Act Unit :=
  modify fun book => { book with loggers := logger :: book.loggers }

/-- Logs a record through its logger, which is made for it. -/
def log (time : String) (e : Entry) : Act Unit := do
  make e.logger
  modify fun book =>
    { book with top := book.journal.add book.loggers book.encode time e book.top }

/-- A call that concerns the journal. -/
inductive Call where
  | setUp (given : List (String × Value))
  | log (time : String) (entry : Entry)
  | make (logger : Wide)

/-- What a call does. -/
def Call.act : Call → Act Unit
  | .setUp given => Logbook.setUp given
  | .log time entry => Logbook.log time entry
  | .make logger => Logbook.make logger

/-- How a call ends. -/
def outcome (book : Logbook) (call : Call) : Except Failure Unit := (call.act.run.run book).1

/-- The logbook after a call, also after one that fails. -/
def step (book : Logbook) (call : Call) : Logbook := (call.act.run.run book).2

/-- The logbook after calls. -/
def run (book : Logbook) (calls : List Call) : Logbook := calls.foldl step book

end Logbook

end SourceSurvey
