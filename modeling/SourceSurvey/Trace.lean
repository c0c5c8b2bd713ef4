import SourceSurvey.Failure

/-!
# Traced computations

A computation that may fail and that leaves a trail of events: log records, and calls of outside
tools.  The trail is kept when the computation fails.

* `Level`, `Event`;
* `Traced`, a monad, with `Traced.log`, `Traced.note` and `Traced.rescue`.
-/

namespace SourceSurvey

/-- The levels of log records: five that have names, and any other by its weight. -/
inductive Level where
  | debug
  | info
  | warning
  | error
  | critical
  | numbered (weight : Int)
  deriving DecidableEq

namespace Level

/-- The weight of a level. -/
def weight : Level → Int
  | .debug => 10
  | .info => 20
  | .warning => 30
  | .error => 40
  | .critical => 50
  | .numbered weight => weight

/-- The weights that have names. -/
def names : List (Int × String) :=
  [(0, "NOTSET"), (10, "DEBUG"), (20, "INFO"), (30, "WARNING"), (40, "ERROR"), (50, "CRITICAL")]

/-- The text of a level. -/
def text (level : Level) : String := (names.lookup level.weight).getD s!"Level {level.weight}"

end Level

/-- A call of an outside tool: its words, the directory it runs in, and the seconds it may take. -/
structure ToolCall where
  words : List String
  directory : String
  timeout : Value
  deriving DecidableEq

/-- Something that a computation did beside its result. -/
inductive Event where
  | log (level : Level) (message : String)
  | call (tool : ToolCall)
  deriving DecidableEq

/-- A computation with its trail. -/
structure Traced (α : Type) where
  trail : List Event
  outcome : Except Failure α

namespace Traced

variable {α β : Type}

/-- A result without events. -/
def pure (a : α) : Traced α := ⟨[], .ok a⟩

/-- Goes on after a success; the trails follow each other. -/
def bind (x : Traced α) (f : α → Traced β) : Traced β :=
  match x.outcome with
  | .ok a => ⟨x.trail ++ (f a).trail, (f a).outcome⟩
  | .error e => ⟨x.trail, .error e⟩

instance : Monad Traced where
  pure := Traced.pure
  bind := Traced.bind

/-- A failure without events. -/
def fail (e : Failure) : Traced α := ⟨[], .error e⟩

instance : MonadLift (Except Failure) Traced := ⟨fun x => ⟨[], x⟩⟩

instance : MonadLift (Except Misuse) Traced := ⟨fun x => ⟨[], orFail x⟩⟩

/-- A single event. -/
def note (e : Event) : Traced Unit := ⟨[e], .ok ()⟩

/-- A log record. -/
def log (level : Level) (message : String) : Traced Unit := note (.log level message)

/-- Goes on after a failure that the handler takes. -/
def rescue (x : Traced α) (handler : Failure → Option (Traced α)) : Traced α :=
  match x.outcome with
  | .ok _ => x
  | .error e =>
    match handler e with
    | some y => ⟨x.trail ++ y.trail, y.outcome⟩
    | none => x

/-- The log records of a trail. -/
def logs (x : Traced α) : List (Level × String) :=
  x.trail.filterMap fun
    | .log level message => some (level, message)
    | .call _ => none

/-- The tool calls of a trail. -/
def calls (x : Traced α) : List ToolCall :=
  x.trail.filterMap fun
    | .log _ _ => none
    | .call tool => some tool

end Traced

end SourceSurvey
